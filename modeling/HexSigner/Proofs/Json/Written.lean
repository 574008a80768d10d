import HexSigner.Json.Reader
import HexSigner.Settings.Basic
import Mathlib.Tactic.SplitIfs

/-!
# Reading back what was written in JSON

Two ways lead from a text to JSON and back, and neither was made for the other: `quoted` escapes as
little as it can, and `readString` understands every escape there is.  They agree because a
character is either written as itself, which reads as itself, or as one of the escapes
(`readString_escapeChar`).  So a string of JSON that was written from a text denotes that text,
whatever the text is (`readText_quoted`).

An object is read member by member: `readMembers_eq` is one step of that, and `readMembers_of_end`
the last one.  For an object with a member in each line, `TakesAll` says what the values of the
members make of a structure, and by induction on them the object is read as just that
(`readMembers_lines`).
-/

set_option autoImplicit false

namespace HexSigner.Json

/-! ## Strings -/

/-- The last hexadecimal digit of a number is read back. -/
theorem hexDigit?_digitChar (n : Nat) :
    Text.hexDigit? (Nat.digitChar (n % 16)) = some (n % 16) := by
  have hall : ∀ k : Fin 16, Text.hexDigit? (Nat.digitChar k) = some k.val := by decide
  exact hall ⟨n % 16, Nat.mod_lt n (by decide)⟩

theorem fourDigits?_digitChar {n : Nat} (h : n < 0x10000) :
    fourDigits? (Nat.digitChar (n / 4096 % 16)) (Nat.digitChar (n / 256 % 16))
      (Nat.digitChar (n / 16 % 16)) (Nat.digitChar (n % 16)) = some n := by
  have hvalue :
      4096 * (n / 4096 % 16) + 256 * (n / 256 % 16) + 16 * (n / 16 % 16) + n % 16 = n := by
    omega
  simp only [fourDigits?, hexDigit?_digitChar, hvalue]

/-- A number in four digits is read back. -/
theorem readFourDigits_fourDigits {n : Nat} (h : n < 0x10000) (rest : List Char) :
    readFourDigits (fourDigits n ++ rest) = .ok (n, rest) := by
  simp [fourDigits, readFourDigits, fourDigits?_digitChar h]

/-- An escape stands for one character of a string. -/
theorem readString_of_readEscape {cs rest : List Char} {c : Char}
    (h : readEscape cs = .ok (c, rest)) :
    readString ('\\' :: cs) = (readString rest).map fun (s, left) ↦ (c :: s, left) := by
  rw [readString]
  simp only [Char.reduceEq, if_false, if_true]
  split
  · next hf => cases h.symm.trans hf
  · next hc =>
    cases h.symm.trans hc
    rfl

/-- Below the space, a character without an escape of its own is written with its number. -/
theorem readEscape_fourDigits {c : Char} (h : c.toNat < 0x20) (rest : List Char) :
    readEscape ('u' :: (fourDigits c.toNat ++ rest)) = .ok (c, rest) := by
  have htrailing : isTrailing c.toNat = false := by simp [isTrailing]; omega
  have hleading : isLeading c.toNat = false := by simp [isLeading]; omega
  simp only [readEscape, readFourDigits_fourDigits (Nat.lt_trans h (by decide)), htrailing,
    hleading, Char.ofNat_toNat, Bool.false_eq_true, if_false]

/-- **However a character is written in a string, it is read as itself.** -/
theorem readString_escapeChar (c : Char) (rest : List Char) :
    readString (escapeChar c ++ rest) = (readString rest).map fun (s, left) ↦ (c :: s, left) := by
  rw [escapeChar]
  split_ifs with hquote hslash hb hf hn hr ht hcontrol
  · subst hquote; exact readString_of_readEscape rfl
  · subst hslash; exact readString_of_readEscape rfl
  · subst hb; exact readString_of_readEscape rfl
  · subst hf; exact readString_of_readEscape rfl
  · subst hn; exact readString_of_readEscape rfl
  · subst hr; exact readString_of_readEscape rfl
  · subst ht; exact readString_of_readEscape rfl
  · exact readString_of_readEscape (readEscape_fourDigits hcontrol rest)
  · rw [List.singleton_append, readString, if_neg hquote, if_neg hslash, if_neg hcontrol]

theorem readString_flatMap_escapeChar (s rest : List Char) :
    readString (s.flatMap escapeChar ++ '"' :: rest) = .ok (s, rest) := by
  induction s with
  | nil => rw [List.flatMap_nil, List.nil_append, readString, if_pos rfl]
  | cons c s ih =>
    rw [List.flatMap_cons, List.append_assoc, readString_escapeChar, ih]
    rfl

/-- **A text that was written as a string is read back**, with anything blank in front. -/
theorem readText_quoted {cs rest : List Char} {s : String} (expected : String)
    (h : skipBlank cs = (quoted s).toList ++ rest) : readText expected cs = .ok (s, rest) := by
  have hquoted : (quoted s).toList ++ rest =
      '"' :: (s.toList.flatMap escapeChar ++ '"' :: rest) := by simp [quoted]
  rw [readText, h, hquoted]
  simp [readString_flatMap_escapeChar, Except.map]

/-- A truth value that was written is read back, with anything blank in front. -/
theorem readBoolean_boolText {cs rest : List Char} {b : Bool}
    (h : skipBlank cs = (boolText b).toList ++ rest) : readBoolean cs = .ok (b, rest) := by
  rw [readBoolean, h]
  cases b <;> simp [boolText, skipWord, Except.map]

/-! ## Objects -/

section Members

variable {ρ : Type} {fields : List (Field ρ)} {seen : List String} {first : Bool}

/-- One step through an object, whatever the name of the member is. -/
theorem readMembers_eq {r : ρ} {cs afterQuote key afterKey afterColon : List Char}
    (hnext : nextMember first cs = .ok (true, afterQuote))
    (hkey : readString afterQuote = .ok (key, afterKey))
    (hcolon : readColon afterKey = .ok afterColon) :
    readMembers fields seen first r cs =
      match fields.find? (·.name = String.ofList key) with
      | none =>
        match skipValue afterColon with
        | .error f => .error f
        | .ok rest => readMembers fields seen false r rest
      | some field =>
        if field.name ∈ seen then
          .error (.before (.repeatedField field.name) (skipObjectEnd afterKey))
        else
          match (field.read r).run afterColon with
          | .error f => .error f
          | .ok (r, rest) => readMembers fields (field.name :: seen) false r rest := by
  rw [readMembers]
  split
  · next hf => cases hnext.symm.trans hf
  · next hf => cases hnext.symm.trans hf
  · next hq =>
    cases hnext.symm.trans hq
    split
    · next hf => cases hkey.symm.trans hf
    · next hk =>
      cases hkey.symm.trans hk
      cases fields.find? (·.name = String.ofList key) with
      | none =>
        dsimp only
        split
        · next hf => cases hcolon.symm.trans hf
        · next hc =>
          cases hcolon.symm.trans hc
          split <;> simp only [*]
      | some field =>
        dsimp only
        split
        · rfl
        · split
          · next hf => cases hcolon.symm.trans hf
          · next hc =>
            cases hcolon.symm.trans hc
            split <;> simp only [*]

/-- A member that was not seen before is read into its field. -/
theorem readMembers_of_member {r r' : ρ} {cs afterQuote afterKey afterColon left : List Char}
    {field : Field ρ} (hnext : nextMember first cs = .ok (true, afterQuote))
    (hkey : readString afterQuote = .ok (field.name.toList, afterKey))
    (hfield : fields.find? (·.name = field.name) = some field) (hseen : field.name ∉ seen)
    (hcolon : readColon afterKey = .ok afterColon)
    (hvalue : (field.read r).run afterColon = .ok (r', left)) :
    readMembers fields seen first r cs = readMembers fields (field.name :: seen) false r' left := by
  rw [readMembers_eq hnext hkey hcolon, String.ofList_toList, hfield]
  dsimp only
  rw [if_neg hseen, hvalue]

theorem readMembers_of_end {r : ρ} {cs left : List Char}
    (h : nextMember first cs = .ok (false, left)) :
    readMembers fields seen first r cs = .ok (r, left) := by
  rw [readMembers]
  split
  · next hf => cases h.symm.trans hf
  · next hl =>
    cases h.symm.trans hl
    rfl
  · next hf => cases h.symm.trans hf

end Members

/-! ## Objects with a member in each line -/

/-- What stands in front of a line: all but the first have a comma before them. -/
def lineStart (first : Bool) : String := if first then "\n" else ",\n"

/-- The members of an object, each in its line, up to the brace that closes the object. -/
def lines (first : Bool) : List (String × String) → String
  | [] => "\n\x7d"
  | (name, value) :: members =>
    lineStart first ++ ("  " ++ quoted name ++ ": " ++ value) ++ lines false members

section Lines

variable {ρ : Type} (fields : List (Field ρ))

/-- A field takes a value that is written behind a space, and turns `r` into `r'` by that. -/
def TakesValue (field : Field ρ) (value : String) (r r' : ρ) : Prop :=
  ∀ rest, (field.read r).run (' ' :: (value.toList ++ rest)) = .ok (r', rest)

/-- Members whose values turn `r` into `r'`, one after the other, each taken by its own field. -/
inductive TakesAll : List String → ρ → List (String × String) → ρ → Prop
  | nil {seen : List String} {r : ρ} : TakesAll seen r [] r
  | cons {seen : List String} {field : Field ρ} {value : String} {r r' r'' : ρ}
      {members : List (String × String)}
      (hfield : fields.find? (·.name = field.name) = some field) (hseen : field.name ∉ seen)
      (hvalue : TakesValue field value r r')
      (hrest : TakesAll (field.name :: seen) r' members r'') :
      TakesAll seen r ((field.name, value) :: members) r''

variable {fields}

theorem takesValue_quoted (name text : String) (put : ρ → String → ρ) (r : ρ) :
    TakesValue (.of name .text put) (quoted text) r (put r text) := by
  intro rest
  have hread : readText "a string" (' ' :: ((quoted text).toList ++ rest)) = .ok (text, rest) :=
    readText_quoted _ (by simp [quoted, skipBlank, isBlank])
  simp [Field.of, Reader.text, hread, Except.map]

theorem takesValue_boolText (name : String) (b : Bool) (put : ρ → Bool → ρ) (r : ρ) :
    TakesValue (.of name .boolean put) (boolText b) r (put r b) := by
  intro rest
  have hread : readBoolean (' ' :: ((boolText b).toList ++ rest)) = .ok (b, rest) :=
    readBoolean_boolText (by cases b <;> simp [boolText, skipBlank, isBlank])
  simp [Field.of, Reader.boolean, hread, Except.map]

/-- **Line by line, an object is read into the fields.** -/
theorem readMembers_lines {seen : List String} {r r' : ρ} {members : List (String × String)}
    (h : TakesAll fields seen r members r') (first : Bool) (rest : List Char) :
    readMembers fields seen first r ((lines first members).toList ++ rest) = .ok (r', rest) := by
  induction h generalizing first with
  | nil => exact readMembers_of_end (by simp [lines, nextMember, skipBlank, isBlank])
  | @cons seen field value r r' r'' members hfield hseen hvalue _ ih =>
    have hnext : nextMember first ((lines first ((field.name, value) :: members)).toList ++ rest) =
        .ok (true, field.name.toList.flatMap escapeChar ++
          '"' :: ':' :: ' ' :: (value.toList ++ ((lines false members).toList ++ rest))) := by
      cases first <;> simp [lines, lineStart, quoted, nextMember, skipBlank, isBlank, openKey]
    have hcolon : ∀ cs, readColon (':' :: cs) = .ok cs := fun cs ↦ by
      simp [readColon, skipBlank, isBlank]
    rw [readMembers_of_member hnext (readString_flatMap_escapeChar _ _) hfield hseen (hcolon _)
      (hvalue _)]
    exact ih false

end Lines

end HexSigner.Json
