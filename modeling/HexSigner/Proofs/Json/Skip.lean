import HexSigner.Proofs.Json.Grammar
import HexSigner.Proofs.Json.Written
import Mathlib.Data.List.DropRight

/-!
# Passing over values

What the grammar calls a value is passed over as a whole, however it is written and however deep it
is nested (`skipWithin_of_valueForm`).  The brackets that are open around the value stay open, and
passing over it leaves what follows.

Numbers are where a value could go on after its end, so what follows has to be no part of a number
(`Delimited`).  Inside of lists and objects the grammar sees to that.
-/

set_option autoImplicit false

namespace HexSigner.Json

open Document

/-! ## Blanks -/

theorem skipBlank_cons {c : Char} (h : isBlank c = false) (cs : List Char) :
    skipBlank (c :: cs) = c :: cs := by
  rw [skipBlank, List.dropWhile_cons, h]
  rfl

theorem Blanks.skipBlank_eq {cs rest : List Char} (h : Blanks cs rest) :
    skipBlank cs = skipBlank rest := by
  obtain ⟨blanks, rfl, hblank⟩ := h
  induction blanks with
  | nil => rfl
  | cons c blanks ih =>
    rw [List.forall_mem_cons] at hblank
    rw [List.cons_append, skipBlank, List.dropWhile_cons, hblank.1]
    exact ih hblank.2

theorem Blanks.skipBlank_cons {cs rest : List Char} {c : Char} (h : Blanks cs (c :: rest))
    (hc : isBlank c = false) : skipBlank cs = c :: rest := by
  rw [h.skipBlank_eq, Json.skipBlank_cons hc]

/-! ## What may follow after a value -/

/-- What follows is no part of a number. -/
def Delimited (rest : List Char) : Prop :=
  ∀ c, rest.head? = some c → c.isDigit = false ∧ c ≠ '.' ∧ c ≠ 'e' ∧ c ≠ 'E'

theorem delimited_nil : Delimited [] := nofun

theorem delimited_of_isBlank {c : Char} (h : isBlank c = true) (cs : List Char) :
    Delimited (c :: cs) := by
  rintro d hd
  cases hd
  simp only [isBlank, Bool.or_eq_true, decide_eq_true_eq] at h
  obtain ((rfl | rfl) | rfl) | rfl := h <;> decide

theorem Blanks.delimited {cs rest : List Char} (h : Blanks cs rest) (hrest : Delimited rest) :
    Delimited cs := by
  obtain ⟨blanks, rfl, hblank⟩ := h
  cases blanks with
  | nil => exact hrest
  | cons c blanks => exact delimited_of_isBlank (hblank c List.mem_cons_self) _

theorem delimited_comma (cs : List Char) : Delimited (',' :: cs) := by
  rintro c hc
  cases hc
  decide

theorem delimited_closing (b : Bracket) (cs : List Char) : Delimited (b.closing :: cs) := by
  rintro c hc
  cases hc
  cases b <;> decide

/-! ## Strings -/

theorem readFourDigits_of_fourDigits? {a b c d : Char} {n : Nat}
    (h : fourDigits? a b c d = some n) (rest : List Char) :
    readFourDigits (a :: b :: c :: d :: rest) = .ok (n, rest) := by
  rw [readFourDigits, h]

theorem simpleEscape?_u : simpleEscape? 'u' = none := by decide

theorem readEscape_of_simpleEscape? {e c : Char} (h : simpleEscape? e = some c)
    (cs : List Char) : readEscape (e :: cs) = .ok (c, cs) := by
  rw [readEscape.eq_def]
  split
  · contradiction
  · next heq =>
    cases heq
    rw [simpleEscape?_u] at h
    cases h
  · next heq =>
    cases heq
    rw [h]

theorem skipEscape_of_simpleEscape? {e c : Char} (h : simpleEscape? e = some c)
    (cs : List Char) : skipEscape (e :: cs) = .ok cs := by
  rw [skipEscape.eq_def]
  split
  · contradiction
  · next heq =>
    cases heq
    rw [simpleEscape?_u] at h
    cases h
  · next heq =>
    cases heq
    rw [h]

theorem skipEscape_of_fourDigits? {a b c d : Char} {n : Nat}
    (h : fourDigits? a b c d = some n) (rest : List Char) :
    skipEscape ('u' :: a :: b :: c :: d :: rest) = .ok rest := by
  rw [skipEscape, readFourDigits_of_fourDigits? h]
  rfl

theorem skipString_of_skipEscape {cs rest : List Char} (h : skipEscape cs = .ok rest) :
    skipString ('\\' :: cs) = skipString rest := by
  rw [skipString]
  simp only [Char.reduceEq, if_false, if_true]
  split
  · next hf => cases h.symm.trans hf
  · next hrest =>
    cases h.symm.trans hrest
    rfl

section Surrogates

variable {n₁ n₂ n₃ n₄ m₁ m₂ m₃ m₄ : Char} {n m : Nat} (hn : fourDigits? n₁ n₂ n₃ n₄ = some n)
include hn

theorem readEscape_of_fourDigits? (hleading : isLeading n = false)
    (htrailing : isTrailing n = false) (rest : List Char) :
    readEscape ('u' :: n₁ :: n₂ :: n₃ :: n₄ :: rest) = .ok (Char.ofNat n, rest) := by
  simp only [readEscape, readFourDigits_of_fourDigits? hn, hleading, htrailing,
    Bool.false_eq_true, if_false]

theorem readEscape_of_pair (hm : fourDigits? m₁ m₂ m₃ m₄ = some m) (hleading : isLeading n = true)
    (htrailing : isTrailing m = true) (rest : List Char) :
    readEscape ('u' :: n₁ :: n₂ :: n₃ :: n₄ :: '\\' :: 'u' :: m₁ :: m₂ :: m₃ :: m₄ :: rest) =
      .ok (Char.ofNat (0x10000 + 1024 * (n - 0xD800) + (m - 0xDC00)), rest) := by
  have hnot : isTrailing n = false := by
    simp only [isLeading, Bool.and_eq_true, decide_eq_true_eq] at hleading
    simp only [isTrailing, Bool.and_eq_false_iff, decide_eq_false_iff_not]
    omega
  simp only [readEscape, readFourDigits_of_fourDigits? hn, hleading, hnot, Bool.false_eq_true,
    if_false, if_true, readTrailing, readFourDigits_of_fourDigits? hm, htrailing]

end Surrogates

/-- **However a string is spelled, it is read.** -/
theorem readString_of_spells {cs s rest : List Char} (h : Spells cs s rest) :
    readString cs = .ok (s, rest) := by
  induction h with
  | close => rw [readString, if_pos rfl]
  | plain hquote hslash hcontrol _ ih =>
    rw [readString, if_neg hquote, if_neg hslash, if_neg hcontrol, ih]
    rfl
  | letter he _ ih =>
    rw [readString_of_readEscape (readEscape_of_simpleEscape? he _), ih]
    rfl
  | number hn hleading htrailing _ ih =>
    rw [readString_of_readEscape (readEscape_of_fourDigits? hn hleading htrailing _), ih]
    rfl
  | pair hn hm hleading htrailing _ ih =>
    rw [readString_of_readEscape (readEscape_of_pair hn hm hleading htrailing _), ih]
    rfl

theorem skipString_of_spells {cs s rest : List Char} (h : Spells cs s rest) :
    skipString cs = .ok rest := by
  induction h with
  | close => rw [skipString, if_pos rfl]
  | plain hquote hslash hcontrol _ ih =>
    rw [skipString, if_neg hquote, if_neg hslash, if_neg hcontrol, ih]
  | letter he _ ih => rw [skipString_of_skipEscape (skipEscape_of_simpleEscape? he _), ih]
  | number hn _ _ _ ih => rw [skipString_of_skipEscape (skipEscape_of_fourDigits? hn _), ih]
  | pair hn hm _ _ _ ih =>
    rw [skipString_of_skipEscape (skipEscape_of_fourDigits? hn _),
      skipString_of_skipEscape (skipEscape_of_fourDigits? hm _), ih]

/-! ## Numbers -/

theorem DigitsForm.takeDigits_eq {cs rest : List Char} {ds : List Nat} (h : DigitsForm cs ds rest)
    (hrest : ∀ c, rest.head? = some c → c.isDigit = false) :
    takeDigits cs = ds ∧ dropDigits cs = rest ∧ ds ≠ [] := by
  obtain ⟨front, rfl, hne, hdigit, rfl⟩ := h
  have hstop : rest.takeWhile Char.isDigit = [] ∧ rest.dropWhile Char.isDigit = rest := by
    cases rest with
    | nil => exact ⟨rfl, rfl⟩
    | cons c rest =>
      have hc := hrest c rfl
      rw [List.takeWhile_cons, List.dropWhile_cons, hc]
      exact ⟨rfl, rfl⟩
  refine ⟨?_, ?_, by simpa using hne⟩
  · rw [takeDigits, List.takeWhile_append_of_pos hdigit, hstop.1, List.append_nil]
  · rw [dropDigits, List.dropWhile_append_of_pos hdigit, hstop.2]

theorem DigitsForm.head {cs rest : List Char} {ds : List Nat} (h : DigitsForm cs ds rest) :
    ∃ c cs', cs = c :: cs' ∧ c.isDigit = true := by
  obtain ⟨front, rfl, hne, hdigit, -⟩ := h
  obtain ⟨c, front, rfl⟩ := List.exists_cons_of_ne_nil hne
  exact ⟨c, front ++ rest, rfl, hdigit c List.mem_cons_self⟩

theorem readWhole_of_form {atEnd : Cause} {cs rest : List Char} {ds : List Nat}
    (h : WholeForm cs ds rest) (hrest : ∀ c, rest.head? = some c → c.isDigit = false) :
    readWhole atEnd cs = .ok (ds, rest) := by
  cases h with
  | zero =>
    have hnone : takeDigits rest = [] := by
      cases rest with
      | nil => rfl
      | cons c rest =>
        rw [takeDigits, List.takeWhile_cons, hrest c rfl]
        rfl
    rw [readWhole, if_pos rfl, hnone]
    rfl
  | digits h hzero =>
    obtain ⟨htake, hdrop, -⟩ := h.takeDigits_eq hrest
    obtain ⟨c, cs', rfl, hc⟩ := h.head
    have hne : c ≠ '0' := fun heq ↦ hzero (by rw [heq]; rfl)
    rw [readWhole, if_neg hne, if_pos hc, htake, ← hdrop, dropDigits, dropDigits,
      List.dropWhile_cons_of_pos hc]

theorem readFraction_of_form {atEnd : Cause} {cs rest : List Char} {ds : Option (List Nat)}
    (h : FractionForm cs ds rest)
    (hrest : ∀ c, rest.head? = some c → c.isDigit = false ∧ c ≠ '.') :
    readFraction atEnd cs = .ok (ds, rest) := by
  cases h with
  | absent =>
    rw [readFraction.eq_def]
    split
    · exact absurd rfl (hrest '.' rfl).2
    · rfl
  | present h =>
    obtain ⟨htake, hdrop, hne⟩ := h.takeDigits_eq fun c hc ↦ (hrest c hc).1
    rw [readFraction, htake, hdrop, if_pos (by simpa using hne)]

theorem exponentSign_of_form {cs rest : List Char} {negative : Bool} (h : SignForm cs negative rest)
    (hrest : ∃ c rest', rest = c :: rest' ∧ c.isDigit = true) :
    exponentSign cs = (negative, rest) := by
  obtain ⟨c, rest, rfl, hc⟩ := hrest
  cases h with
  | absent =>
    rw [exponentSign.eq_def]
    split
    · next heq => cases heq; exact absurd hc (by decide)
    · next heq => cases heq; exact absurd hc (by decide)
    · rfl
  | plus => rfl
  | minus => rfl

theorem readExponent_of_form {atEnd : Cause} {cs rest : List Char}
    {e : Option (Bool × List Nat)} (h : ExponentForm cs e rest) (hrest : Delimited rest) :
    readExponent atEnd cs = .ok (e, rest) := by
  cases h with
  | absent =>
    cases cs with
    | nil => rfl
    | cons c cs =>
      obtain ⟨-, -, he, hE⟩ := hrest c rfl
      rw [readExponent, if_neg (by simp [he, hE])]
  | present hmark hsign h =>
    obtain ⟨htake, hdrop, hne⟩ := h.takeDigits_eq fun c hc ↦ (hrest c hc).1
    rw [readExponent, if_pos hmark]
    simp only [exponentSign_of_form hsign h.head, htake, hdrop]
    rw [if_pos (by simpa using hne)]

/-- What follows after the digits of a number is no digit. -/
theorem ExponentForm.head {cs rest : List Char} {e : Option (Bool × List Nat)}
    (h : ExponentForm cs e rest) (hrest : Delimited rest) :
    ∀ c, cs.head? = some c → c.isDigit = false ∧ c ≠ '.' := by
  intro c hc
  cases h with
  | absent => exact ⟨(hrest c hc).1, (hrest c hc).2.1⟩
  | present hmark =>
    cases hc
    obtain rfl | rfl := hmark <;> decide

theorem FractionForm.head {cs rest : List Char} {ds : Option (List Nat)}
    (h : FractionForm cs ds rest) (hrest : ∀ c, rest.head? = some c → c.isDigit = false) :
    ∀ c, cs.head? = some c → c.isDigit = false := by
  intro c hc
  cases h with
  | absent => exact hrest c hc
  | present =>
    cases hc
    decide

/-- **A number is read as it is written.** -/
theorem readNumeral_of_form (atEnd : Cause) {cs rest : List Char} {n : Numeral}
    (h : MagnitudeForm cs n rest) (hrest : Delimited rest) :
    readNumeral atEnd n.negative cs = .ok (n, rest) := by
  obtain ⟨ds, es, hwhole, hfraction, hexponent⟩ := h
  have hes := hexponent.head hrest
  have hds := hfraction.head fun c hc ↦ (hes c hc).1
  rw [readNumeral, readWhole_of_form hwhole hds]
  dsimp only
  rw [readFraction_of_form hfraction hes]
  dsimp only
  rw [readExponent_of_form hexponent hrest]

theorem WholeForm.head {cs rest : List Char} {ds : List Nat} (h : WholeForm cs ds rest) :
    ∃ c cs', cs = c :: cs' ∧ c.isDigit = true := by
  cases h with
  | zero => exact ⟨'0', rest, rfl, by decide⟩
  | digits h => exact h.head

/-! ## Scalars -/

theorem skipWord_append (word rest : List Char) : skipWord word (word ++ rest) = .ok rest := by
  induction word with
  | nil => rfl
  | cons w word ih => rw [List.cons_append, skipWord, if_pos rfl, ih]

theorem ne_of_isDigit {c d : Char} (hc : c.isDigit = true) (hd : d.isDigit = false) : c ≠ d := by
  rintro rfl
  exact absurd hc (by rw [hd]; decide)

theorem skipScalar_of_numeralForm {cs rest : List Char} {n : Numeral} (h : NumeralForm cs n rest)
    (hrest : Delimited rest) : skipScalar cs = .ok rest := by
  cases h with
  | negative hsign h =>
    have hread := readNumeral_of_form .badNumber h hrest
    rw [hsign] at hread
    rw [skipScalar]
    simp only [Char.reduceEq, if_false, if_true, hread]
    rfl
  | positive hsign h =>
    have hread := readNumeral_of_form .badNumber h hrest
    rw [hsign] at hread
    obtain ⟨c, cs', rfl, hc⟩ : ∃ c cs', cs = c :: cs' ∧ c.isDigit = true := by
      obtain ⟨_, _, hwhole, -⟩ := h
      exact hwhole.head
    have hne : ∀ d : Char, d.isDigit = false → c ≠ d := fun d hd ↦ ne_of_isDigit hc hd
    rw [skipScalar, if_neg (hne _ rfl), if_neg (hne _ rfl), if_neg (hne _ rfl), if_neg (hne _ rfl),
      if_neg (hne _ rfl), if_pos hc, hread]
    rfl

/-! ## Steps -/

theorem skipBlank_skipBlank (cs : List Char) : skipBlank (skipBlank cs) = skipBlank cs :=
  List.dropWhile_idempotent isBlank cs

theorem skipKey_skipBlank (cs : List Char) : skipKey (skipBlank cs) = skipKey cs := by
  rw [skipKey, skipBlank_skipBlank, skipKey]

theorem skipWithin_skipBlank (brackets : List Bracket) (cs : List Char) :
    skipWithin brackets (skipBlank cs) = skipWithin brackets cs := by
  rw [skipWithin, skipWithin]
  grind [skipBlank_skipBlank]

section Steps

variable {brackets : List Bracket} {cs ds rest : List Char}

theorem skipWithin_of_scalar {c : Char} (h : skipBlank cs = c :: ds) (hlist : c ≠ '[')
    (hobject : c ≠ '\x7b') (hscalar : skipScalar (c :: ds) = .ok rest) :
    skipWithin brackets cs = skipClosing brackets rest := by
  rw [skipWithin]
  grind

theorem skipWithin_of_emptyList (h : skipBlank cs = '[' :: ds)
    (hend : skipBlank ds = ']' :: rest) :
    skipWithin brackets cs = skipClosing brackets rest := by
  rw [skipWithin]
  grind

theorem skipWithin_of_list {c : Char} (h : skipBlank cs = '[' :: ds)
    (hitem : skipBlank ds = c :: rest) (hc : c ≠ ']') :
    skipWithin brackets cs = skipWithin (.list :: brackets) (c :: rest) := by
  rw [skipWithin]
  grind

theorem skipWithin_of_emptyObject (h : skipBlank cs = '\x7b' :: ds)
    (hend : skipBlank ds = '\x7d' :: rest) :
    skipWithin brackets cs = skipClosing brackets rest := by
  rw [skipWithin]
  grind

theorem skipWithin_of_object {c : Char} {es : List Char} (h : skipBlank cs = '\x7b' :: ds)
    (hmember : skipBlank ds = c :: rest) (hc : c ≠ '\x7d') (hkey : skipKey (c :: rest) = .ok es) :
    skipWithin brackets cs = skipWithin (.object :: brackets) es := by
  rw [skipWithin]
  grind

theorem skipClosing_of_closing {b : Bracket} (h : skipBlank cs = b.closing :: rest) :
    skipClosing (b :: brackets) cs = skipClosing brackets rest := by
  rw [skipClosing]
  grind

theorem skipClosing_of_comma (h : skipBlank cs = ',' :: rest) :
    skipClosing (.list :: brackets) cs = skipWithin (.list :: brackets) rest := by
  rw [skipClosing]
  grind [Bracket.closing]

theorem skipClosing_of_key (h : skipBlank cs = ',' :: rest) (hkey : skipKey rest = .ok ds) :
    skipClosing (.object :: brackets) cs = skipWithin (.object :: brackets) ds := by
  rw [skipClosing]
  grind [Bracket.closing]

end Steps

/-! ## Values -/

/-- A tree starts with a character, however it is written. -/
def Starts : Tree → Char → Prop
  | .text _, c => c = '"'
  | .integer _, c | .real _ _, c => c = '-' ∨ c.isDigit = true
  | .boolean b, c => c = if b then 't' else 'f'
  | .list _, c => c = '['
  | .table _, c => c = '\x7b'

theorem NumeralForm.head {cs rest : List Char} {n : Numeral} (h : NumeralForm cs n rest) :
    ∃ c ds, cs = c :: ds ∧ (c = '-' ∨ c.isDigit = true) := by
  cases h with
  | positive _ h =>
    obtain ⟨_, _, hwhole, -⟩ := h
    obtain ⟨c, ds, rfl, hc⟩ := hwhole.head
    exact ⟨c, ds, rfl, .inr hc⟩
  | negative _ h => exact ⟨'-', _, rfl, .inl rfl⟩

theorem ValueForm.head {cs rest : List Char} {t : Tree} (h : ValueForm cs t rest) :
    ∃ c ds, cs = c :: ds ∧ Starts t c := by
  cases h with
  | integer h => exact h.head
  | real h => exact h.head
  | _ => exact ⟨_, _, rfl, rfl⟩

theorem Starts.ne {t : Tree} {c d : Char} (h : Starts t c) (hd : ¬Starts t d) : c ≠ d :=
  fun heq ↦ hd (heq ▸ h)

theorem not_starts {c : Char} (t : Tree) (hc : c ∉ ['"', '-', 't', 'f', '[', '\x7b'])
    (hdigit : c.isDigit = false) : ¬Starts t c := by
  simp only [List.mem_cons, List.not_mem_nil, not_or] at hc
  cases t with
  | boolean b => cases b <;> simp [Starts, hc]
  | _ => simp [Starts, hc, hdigit]

theorem Starts.isBlank_eq {t : Tree} {c : Char} (h : Starts t c) : isBlank c = false := by
  simp only [isBlank, Bool.or_eq_false_iff, decide_eq_false_iff_not]
  refine ⟨⟨⟨?_, ?_⟩, ?_⟩, ?_⟩ <;> exact h.ne (not_starts t (by decide) rfl)

theorem readColon_of_blanks {cs rest : List Char} (h : Blanks cs (':' :: rest)) :
    readColon cs = .ok rest := by
  rw [readColon, h.skipBlank_cons rfl]
  rfl

theorem skipKey_of_form {cs ks as bs key : List Char} (hfront : Blanks cs ('"' :: ks))
    (hkey : Spells ks key as) (hcolon : Blanks as (':' :: bs)) : skipKey cs = .ok bs := by
  rw [skipKey, hfront.skipBlank_cons rfl]
  simp only [if_true, skipString_of_spells hkey]
  exact readColon_of_blanks hcolon

theorem skipWithin_of_numeralForm {cs ds rest : List Char} {n : Numeral} (h : NumeralForm cs n rest)
    (hrest : Delimited rest) (brackets : List Bracket) (hblank : skipBlank ds = cs) :
    skipWithin brackets ds = skipClosing brackets rest := by
  obtain ⟨c, cs, rfl, hc⟩ := h.head
  have hne : c ≠ '[' ∧ c ≠ '\x7b' := by
    obtain rfl | hc := hc
    · decide
    · exact ⟨ne_of_isDigit hc rfl, ne_of_isDigit hc rfl⟩
  exact skipWithin_of_scalar hblank hne.1 hne.2 (skipScalar_of_numeralForm h hrest)

theorem ItemsForm.head {cs rest : List Char} {items : List Tree} (h : ItemsForm cs items rest) :
    ∃ c ds t, Blanks cs (c :: ds) ∧ Starts t c := by
  cases h with
  | last hfront h =>
    obtain ⟨c, ds, rfl, hc⟩ := h.head
    exact ⟨c, ds, _, hfront, hc⟩
  | cons hfront h =>
    obtain ⟨c, ds, rfl, hc⟩ := h.head
    exact ⟨c, ds, _, hfront, hc⟩

theorem MembersForm.head {cs rest : List Char} {es : Entries} (h : MembersForm cs es rest) :
    ∃ ks, Blanks cs ('"' :: ks) := by
  cases h with
  | last hfront => exact ⟨_, hfront⟩
  | cons hfront => exact ⟨_, hfront⟩

mutual

/-- **A value is passed over as a whole.** -/
theorem skipWithin_of_valueForm : ∀ {cs rest : List Char} {t : Tree}, ValueForm cs t rest →
    Delimited rest → ∀ (brackets : List Bracket) {ds : List Char}, Blanks ds cs →
    skipWithin brackets ds = skipClosing brackets rest
  | cs, rest, t, h, hrest, brackets, ds, hblank => by
    obtain ⟨c, cs, rfl, hc⟩ := h.head
    have hskip := hblank.skipBlank_cons hc.isBlank_eq
    cases h with
    | text h =>
      exact skipWithin_of_scalar hskip (by decide) (by decide)
        (by rw [skipScalar]; exact skipString_of_spells h)
    | integer h => exact skipWithin_of_numeralForm h hrest brackets hskip
    | real h => exact skipWithin_of_numeralForm h hrest brackets hskip
    | true => exact skipWithin_of_scalar hskip (by decide) (by decide) (skipWord_append _ rest)
    | false => exact skipWithin_of_scalar hskip (by decide) (by decide) (skipWord_append _ rest)
    | emptyList h => exact skipWithin_of_emptyList hskip (h.skipBlank_cons rfl)
    | list h =>
      obtain ⟨d, es, u, hfront, hd⟩ := h.head
      have hitem := hfront.skipBlank_cons hd.isBlank_eq
      rw [skipWithin_of_list hskip hitem (hd.ne (not_starts u (by decide) rfl)), ← hitem,
        skipWithin_skipBlank]
      exact skipWithin_of_itemsForm h brackets
    | emptyTable h => exact skipWithin_of_emptyObject hskip (h.skipBlank_cons rfl)
    | table h =>
      obtain ⟨ks, hfront⟩ := h.head
      have hmember := hfront.skipBlank_cons rfl
      obtain ⟨es, hkey, hrest⟩ := skipWithin_of_membersForm h brackets
      rw [← skipKey_skipBlank, hmember] at hkey
      rw [skipWithin_of_object hskip hmember (by decide) hkey]
      exact hrest

/-- The items of a list are passed over, and so is the bracket that closes the list. -/
theorem skipWithin_of_itemsForm : ∀ {cs rest : List Char} {items : List Tree},
    ItemsForm cs items rest → ∀ brackets : List Bracket,
    skipWithin (.list :: brackets) cs = skipClosing brackets rest
  | _, _, _, .last hfront h hback, brackets => by
    rw [skipWithin_of_valueForm h (hback.delimited (delimited_closing .list _)) _ hfront]
    exact skipClosing_of_closing (hback.skipBlank_cons rfl)
  | _, _, _, .cons hfront h hback hrest, brackets => by
    rw [skipWithin_of_valueForm h (hback.delimited (delimited_comma _)) _ hfront,
      skipClosing_of_comma (hback.skipBlank_cons rfl)]
    exact skipWithin_of_itemsForm hrest brackets

/-- The members of an object are passed over, and so is the brace that closes the object. -/
theorem skipWithin_of_membersForm : ∀ {cs rest : List Char} {es : Entries},
    MembersForm cs es rest → ∀ brackets : List Bracket, ∃ ds, skipKey cs = .ok ds ∧
      skipWithin (.object :: brackets) ds = skipClosing brackets rest
  | _, _, _, .last hfront hkey hcolon hvalue h hback, brackets => by
    refine ⟨_, skipKey_of_form hfront hkey hcolon, ?_⟩
    rw [skipWithin_of_valueForm h (hback.delimited (delimited_closing .object _)) _ hvalue]
    exact skipClosing_of_closing (hback.skipBlank_cons rfl)
  | _, _, _, .cons hfront hkey hcolon hvalue h hback hrest, brackets => by
    obtain ⟨ds, hnext, hskip⟩ := skipWithin_of_membersForm hrest brackets
    refine ⟨_, skipKey_of_form hfront hkey hcolon, ?_⟩
    rw [skipWithin_of_valueForm h (hback.delimited (delimited_comma _)) _ hvalue,
      skipClosing_of_key (hback.skipBlank_cons rfl) hnext]
    exact hskip

end

end HexSigner.Json
