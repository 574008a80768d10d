import HexSigner.Json.Skip

/-!
# Reading what is expected

A document is read with a certain content in mind, and never becomes a tree of values in between: a
`Reader` takes a value of one type from the front of a text.  Every reader shortens the text, which
is a part of its type, so that repeating it comes to an end.

* `any` reads what stands there, and `text`, `boolean` and `choice` read single values;
* `record` reads the fields of a structure.  They may be named, as the members of an object, or
  stand in the order of the structure, as the elements of a list.  Fields that are not there keep
  the value they had, and members with other names are passed over.
-/

set_option autoImplicit false

namespace HexSigner.Json

/-- A way to read a value from the front of a text. -/
structure Reader (α : Type) where
  /-- The value, and what is left of the text. -/
  run : List Char → Except Fault (α × List Char)
  length_lt : ∀ {cs : List Char} {a : α} {rest : List Char},
    run cs = .ok (a, rest) → rest.length < cs.length

/-! ## Values of another kind -/

/-- Reads a number whose sign was read already. -/
def readNumber (negative : Bool) (cs : List Char) : Except Fault (Document.Found × List Char) :=
  match readNumeral .endOfValue negative cs with
  | .error f => .error f
  | .ok (n, rest) =>
    match n.value (Text.byteLength rest) with
    | .error f => .error f
    | .ok (.integer i) => .ok (.integer i, rest)
    | .ok (.real x) => .ok (.real x, rest)

/-- What stands at the front of a text, and what follows after it.  Brackets are not read. -/
def readFound : List Char → Except Fault (Document.Found × List Char)
  | [] => .error (.before .endOfValue [])
  | c :: cs =>
    if c = 'n' then (skipWord "ull".toList cs).map (.null, ·)
    else if c = 't' then (skipWord "rue".toList cs).map (.boolean true, ·)
    else if c = 'f' then (skipWord "alse".toList cs).map (.boolean false, ·)
    else if c = '"' then (readString cs).map fun (s, rest) ↦ (.text (String.ofList s), rest)
    else if c = '[' then .ok (.sequence, c :: cs)
    else if c = '\x7b' then .ok (.map, c :: cs)
    else if c = '-' then readNumber true cs
    else if c.isDigit then readNumber false (c :: cs)
    else .error (.inside .expectedValue (c :: cs))

/-- Why the front of a text is not what was expected. -/
def unexpected (expected : String) (cs : List Char) : Fault :=
  match readFound cs with
  | .error f => f
  | .ok (found, rest) => .before (.mismatch (.kind found expected)) rest

/-- Reads whatever stands there.  The inside of a list or an object is passed over. -/
def readAny (cs : List Char) : Except Fault (Document.Found × List Char) :=
  match readFound (skipBlank cs) with
  | .error f => .error f
  | .ok (found, _) =>
    match skipValue cs with
    | .error f => .error f
    | .ok rest => .ok (found, rest)

theorem length_lt_of_readAny {found : Document.Found} {cs rest : List Char}
    (h : readAny cs = .ok (found, rest)) : rest.length < cs.length := by
  unfold readAny at h
  split at h
  · simp at h
  split at h
  · simp at h
  next hs =>
  obtain ⟨-, rfl⟩ := Prod.mk.injEq .. ▸ Except.ok.injEq .. ▸ h
  exact length_lt_of_skipValue hs

/-- Reads a value of any kind. -/
def Reader.any : Reader Document.Found := ⟨readAny, length_lt_of_readAny⟩

/-! ## Single values -/

/-- Reads a string, described by `expected`. -/
def readText (expected : String) (cs : List Char) : Except Fault (String × List Char) :=
  match skipBlank cs with
  | '"' :: rest => (readString rest).map fun (s, rest) ↦ (String.ofList s, rest)
  | rest => .error (unexpected expected rest)

theorem length_lt_of_readText {expected s : String} {cs rest : List Char}
    (h : readText expected cs = .ok (s, rest)) : rest.length < cs.length := by
  have := length_skipBlank_le cs
  unfold readText at h
  split at h
  · next front hb =>
    cases hs : readString front with
    | error f => simp [hs, Except.map] at h
    | ok p =>
      obtain ⟨t, left⟩ := p
      obtain ⟨-, rfl⟩ : _ ∧ left = rest := by simpa [hs, Except.map] using h
      have := length_lt_of_readString hs
      simp_all only [List.length_cons]
      omega
  · simp at h

/-- Reads a string. -/
def Reader.text : Reader String := ⟨readText "a string", length_lt_of_readText⟩

/-- Reads `true` or `false`. -/
def readBoolean (cs : List Char) : Except Fault (Bool × List Char) :=
  match skipBlank cs with
  | 't' :: rest => (skipWord "rue".toList rest).map (true, ·)
  | 'f' :: rest => (skipWord "alse".toList rest).map (false, ·)
  | rest => .error (unexpected "a boolean" rest)

theorem length_lt_of_readBoolean {b : Bool} {cs rest : List Char}
    (h : readBoolean cs = .ok (b, rest)) : rest.length < cs.length := by
  have := length_skipBlank_le cs
  have word {b' : Bool} {w front : List Char}
      (h : (skipWord w front).map (b', ·) = .ok (b, rest)) : rest.length ≤ front.length := by
    cases hw : skipWord w front with
    | error f => simp [hw, Except.map] at h
    | ok left =>
      obtain ⟨-, rfl⟩ : _ ∧ left = rest := by simpa [hw, Except.map] using h
      exact length_skipWord_le hw
  unfold readBoolean at h
  split at h
  · have := word h
    simp_all only [List.length_cons]
    omega
  · have := word h
    simp_all only [List.length_cons]
    omega
  · simp at h

/-- Reads a truth value. -/
def Reader.boolean : Reader Bool := ⟨readBoolean, length_lt_of_readBoolean⟩

/-! ## Choices -/

/-- Reads `null`. -/
def readUnit (cs : List Char) : Except Fault (List Char) :=
  match skipBlank cs with
  | 'n' :: rest => skipWord "ull".toList rest
  | rest => .error (unexpected "unit" rest)

theorem length_lt_of_readUnit {cs rest : List Char} (h : readUnit cs = .ok rest) :
    rest.length < cs.length := by
  have := length_skipBlank_le cs
  unfold readUnit at h
  split at h
  · have := length_skipWord_le h
    simp_all only [List.length_cons]
    omega
  · simp at h

/-- Reads the brace that closes a choice. -/
def readChoiceEnd (cs : List Char) : Except Fault (List Char) :=
  match skipBlank cs with
  | [] => .error (.before .endOfObject [])
  | c :: rest => if c = '\x7d' then .ok rest else .error (.before .expectedValue (c :: rest))

theorem length_lt_of_readChoiceEnd {cs rest : List Char} (h : readChoiceEnd cs = .ok rest) :
    rest.length < cs.length := by
  have := length_skipBlank_le cs
  unfold readChoiceEnd at h
  split at h
  · simp at h
  · split at h
    · obtain rfl := Except.ok.injEq .. ▸ h
      simp_all only [List.length_cons]
      omega
    · simp at h

section Choice

variable {α : Type} (known : List (String × α))

/-- Reads the name of a choice. -/
def readName (cs : List Char) : Except Fault (α × List Char) :=
  match readText "variant identifier" cs with
  | .error f => .error f
  | .ok (name, rest) =>
    match known.lookup name with
    | some a => .ok (a, rest)
    | none => .error (.before (.mismatch (.unknownName name (known.map (·.1)))) rest)

theorem length_lt_of_readName {a : α} {cs rest : List Char}
    (h : readName known cs = .ok (a, rest)) : rest.length < cs.length := by
  unfold readName at h
  split at h
  · simp at h
  · next ht =>
    split at h
    · obtain ⟨-, rfl⟩ := Prod.mk.injEq .. ▸ Except.ok.injEq .. ▸ h
      exact length_lt_of_readText ht
    · simp at h

/-- Reads the name of a choice that is the key of an object. -/
def readChoiceKey (cs : List Char) : Except Fault (α × List Char) :=
  match skipBlank cs with
  | [] => .error (.before .endOfObject [])
  | c :: rest =>
    if c = '"' then readName known (c :: rest)
    else if c = '\x7d' then .error (.inside .expectedValue (c :: rest))
    else .error (.inside .keyNotString (c :: rest))

theorem length_lt_of_readChoiceKey {a : α} {cs rest : List Char}
    (h : readChoiceKey known cs = .ok (a, rest)) : rest.length < cs.length := by
  have := length_skipBlank_le cs
  unfold readChoiceKey at h
  split at h
  · simp at h
  · next c front hb =>
    rw [hb] at this
    split at h
    · exact Nat.lt_of_lt_of_le (length_lt_of_readName known h) this
    · split at h <;> simp at h

/-- Reads a choice: its name, or an object whose only key is the name and whose value is `null`. -/
def readChoice (cs : List Char) : Except Fault (α × List Char) :=
  match skipBlank cs with
  | [] => .error (.before .endOfValue [])
  | c :: rest =>
    if c = '"' then readName known (c :: rest)
    else if c = '\x7b' then
      match readChoiceKey known rest with
      | .error f => .error f
      | .ok (a, rest) =>
        match readColon rest with
        | .error f => .error f
        | .ok rest =>
          match readUnit rest with
          | .error f => .error f
          | .ok rest => (readChoiceEnd rest).map (a, ·)
    else .error (.inside .expectedValue (c :: rest))

theorem length_lt_of_readChoice {a : α} {cs rest : List Char}
    (h : readChoice known cs = .ok (a, rest)) : rest.length < cs.length := by
  have := length_skipBlank_le cs
  unfold readChoice at h
  split at h
  · simp at h
  · next c front hb =>
    rw [hb] at this
    split at h
    · exact Nat.lt_of_lt_of_le (length_lt_of_readName known h) this
    split at h
    · split at h
      · simp at h
      next hn =>
      split at h
      · simp at h
      next hc =>
      split at h
      · simp at h
      next left hu =>
      cases he : readChoiceEnd left with
      | error f => simp [he, Except.map] at h
      | ok last =>
        obtain ⟨-, rfl⟩ : _ ∧ last = rest := by simpa [he, Except.map] using h
        have := length_lt_of_readChoiceKey known hn
        have := length_lt_of_readColon hc
        have := length_lt_of_readUnit hu
        have := length_lt_of_readChoiceEnd he
        simp only [List.length_cons] at *
        omega
    · simp at h

/-- Reads one of the known choices. -/
def Reader.choice : Reader α := ⟨readChoice known, length_lt_of_readChoice known⟩

end Choice

/-! ## Structures -/

/-- A field of a structure. -/
structure Field (ρ : Type) where
  name : String
  /-- Reads the value of the field into a structure. -/
  read : ρ → Reader ρ

/-- The field with a name, a reader for its value and a way to put the value into a structure. -/
def Field.of {ρ α : Type} (name : String) (value : Reader α) (put : ρ → α → ρ) : Field ρ where
  name := name
  read r :=
    { run := fun cs ↦ (value.run cs).map fun (a, rest) ↦ (put r a, rest)
      length_lt := fun {cs s rest} h ↦ by
        cases hv : value.run cs with
        | error f => simp [hv, Except.map] at h
        | ok p =>
          obtain ⟨a, left⟩ := p
          obtain ⟨-, rfl⟩ : _ ∧ left = rest := by simpa [hv, Except.map] using h
          exact value.length_lt hv }

/-- Reads the quote that opens a key. -/
def openKey (cs : List Char) : Except Fault (Bool × List Char) :=
  match cs with
  | '"' :: rest => .ok (true, rest)
  | rest => .error (.inside .keyNotString rest)

theorem length_lt_of_openKey {b : Bool} {cs rest : List Char} (h : openKey cs = .ok (b, rest)) :
    rest.length < cs.length := by
  unfold openKey at h
  split at h
  · obtain ⟨-, rfl⟩ := Prod.mk.injEq .. ▸ Except.ok.injEq .. ▸ h
    simp
  · simp at h

/-- Goes to the next member of an object, past the quote that opens its key, or past the brace that
closes the object; the truth value says whether there is a member. -/
def nextMember (first : Bool) (cs : List Char) : Except Fault (Bool × List Char) :=
  match skipBlank cs with
  | [] => .error (.before .endOfObject [])
  | c :: rest =>
    if c = '\x7d' then .ok (false, rest)
    else if first then openKey (c :: rest)
    else if c ≠ ',' then .error (.inside .expectedObjectEnd (c :: rest))
    else
      match skipBlank rest with
      | [] => .error (.before .endOfValue [])
      | d :: rest =>
        if d = '\x7d' then .error (.inside .trailingComma (d :: rest)) else openKey (d :: rest)

theorem length_lt_of_nextMember {first b : Bool} {cs rest : List Char}
    (h : nextMember first cs = .ok (b, rest)) : rest.length < cs.length := by
  grind [nextMember, length_skipBlank_le, → length_lt_of_openKey]

/-- Goes to the next element of a list, or past the bracket that closes the list; the truth value
says whether there is an element. -/
def nextElement (first : Bool) (cs : List Char) : Except Fault (Bool × List Char) :=
  match skipBlank cs with
  | [] => .error (.before .endOfList [])
  | c :: rest =>
    if c = ']' then .ok (false, rest)
    else if first then .ok (true, c :: rest)
    else if c ≠ ',' then .error (.inside .expectedListEnd (c :: rest))
    else
      match skipBlank rest with
      | [] => .error (.before .endOfValue [])
      | d :: rest =>
        if d = ']' then .error (.inside .trailingComma (d :: rest)) else .ok (true, d :: rest)

theorem length_le_of_nextElement {first b : Bool} {cs rest : List Char}
    (h : nextElement first cs = .ok (b, rest)) : rest.length ≤ cs.length := by
  grind [nextElement, length_skipBlank_le]

/-- Reads the bracket that closes a list. -/
def readListEnd (cs : List Char) : Except Fault (List Char) :=
  match skipBlank cs with
  | [] => .error (.before .endOfList [])
  | c :: rest =>
    if c = ']' then .ok rest
    else if c ≠ ',' then .error (.inside .trailingCharacters (c :: rest))
    else
      match skipBlank rest with
      | ']' :: rest => .error (.inside .trailingComma (']' :: rest))
      | rest => .error (.inside .trailingCharacters rest)

theorem length_lt_of_readListEnd {cs rest : List Char} (h : readListEnd cs = .ok rest) :
    rest.length < cs.length := by
  grind [readListEnd, length_skipBlank_le]

/-- What follows after the brace that closes an object, if it comes next. -/
def skipObjectEnd (cs : List Char) : List Char :=
  match skipBlank cs with
  | '\x7d' :: rest => rest
  | rest => rest

section Record

variable {ρ : Type} (fields : List (Field ρ))

/-- Reads the members of an object into a structure.  A field that was read before, and is in
`seen`, must not come again. -/
def readMembers (seen : List String) (first : Bool) (r : ρ) (cs : List Char) :
    Except Fault (ρ × List Char) :=
  match _ : nextMember first cs with
  | .error f => .error f
  | .ok (false, rest) => .ok (r, rest)
  | .ok (true, rest) =>
    match _ : readString rest with
    | .error f => .error f
    | .ok (key, rest) =>
      match fields.find? (·.name = String.ofList key) with
      | none =>
        match _ : readColon rest with
        | .error f => .error f
        | .ok rest =>
          match _ : skipValue rest with
          | .error f => .error f
          | .ok rest => readMembers seen false r rest
      | some field =>
        if field.name ∈ seen then
          .error (.before (.repeatedField field.name) (skipObjectEnd rest))
        else
          match _ : readColon rest with
          | .error f => .error f
          | .ok rest =>
            match _ : (field.read r).run rest with
            | .error f => .error f
            | .ok (r, rest) => readMembers (field.name :: seen) false r rest
termination_by cs.length
decreasing_by
  · grind [→ length_lt_of_nextMember, → length_lt_of_readString, → length_lt_of_readColon,
      → length_lt_of_skipValue]
  · have := (field.read _).length_lt ‹_›
    grind [→ length_lt_of_nextMember, → length_lt_of_readString, → length_lt_of_readColon]

theorem length_lt_of_readMembers {seen : List String} {first : Bool} {r s : ρ}
    {cs rest : List Char} (h : readMembers fields seen first r cs = .ok (s, rest)) :
    rest.length < cs.length := by
  fun_induction readMembers fields seen first r cs with
  | case2 => grind [→ length_lt_of_nextMember]
  | case6 =>
    grind [→ length_lt_of_nextMember, → length_lt_of_readString, → length_lt_of_readColon,
      → length_lt_of_skipValue]
  | case10 =>
    rename_i field _ _ _ _ _ _ hv ih
    have := (field.read _).length_lt hv
    grind [→ length_lt_of_nextMember, → length_lt_of_readString, → length_lt_of_readColon]
  | _ => simp_all

end Record

/-- Reads the elements of a list into the fields of a structure, in their order. -/
def readElements {ρ : Type} :
    List (Field ρ) → Bool → ρ → List Char → Except Fault (ρ × List Char)
  | [], _, r, cs => (readListEnd cs).map (r, ·)
  | field :: fields, first, r, cs =>
    match nextElement first cs with
    | .error f => .error f
    | .ok (false, rest) => .ok (r, rest)
    | .ok (true, rest) =>
      match (field.read r).run rest with
      | .error f => .error f
      | .ok (r, rest) => readElements fields false r rest

theorem length_le_of_readElements {ρ : Type} {fields : List (Field ρ)} {first : Bool} {r s : ρ}
    {cs rest : List Char} (h : readElements fields first r cs = .ok (s, rest)) :
    rest.length ≤ cs.length := by
  induction fields generalizing first r cs with
  | nil =>
    cases he : readListEnd cs with
    | error f => simp [readElements, he, Except.map] at h
    | ok left =>
      obtain ⟨-, rfl⟩ : _ ∧ left = rest := by simpa [readElements, he, Except.map] using h
      exact Nat.le_of_lt (length_lt_of_readListEnd he)
  | cons field fields ih =>
    unfold readElements at h
    split at h
    · simp at h
    · grind [→ length_le_of_nextElement]
    · next hn =>
      split at h
      · simp at h
      · next hv =>
        have := (field.read r).length_lt hv
        have := ih h
        have := length_le_of_nextElement hn
        omega

/-- Reads a structure, described by `expected`, starting from the values in `r`. -/
def readRecord {ρ : Type} (expected : String) (fields : List (Field ρ)) (r : ρ) (cs : List Char) :
    Except Fault (ρ × List Char) :=
  match skipBlank cs with
  | '[' :: rest => readElements fields true r rest
  | '\x7b' :: rest => readMembers fields [] true r rest
  | rest => .error (unexpected expected rest)

theorem length_lt_of_readRecord {ρ : Type} {expected : String} {fields : List (Field ρ)} {r s : ρ}
    {cs rest : List Char} (h : readRecord expected fields r cs = .ok (s, rest)) :
    rest.length < cs.length := by
  have := length_skipBlank_le cs
  unfold readRecord at h
  split at h
  · have := length_le_of_readElements h
    simp_all only [List.length_cons]
    omega
  · have := length_lt_of_readMembers fields h
    simp_all only [List.length_cons]
    omega
  · simp at h

/-- Reads a structure, described by `expected`; what the document leaves out is as in `r`. -/
def Reader.record {ρ : Type} (expected : String) (fields : List (Field ρ)) (r : ρ) : Reader ρ :=
  ⟨readRecord expected fields r, length_lt_of_readRecord⟩

/-! ## Whole texts -/

/-- Nothing but blanks may follow after the value that a text consists of. -/
def readEnd (cs : List Char) : Except Fault Unit :=
  match skipBlank cs with
  | [] => .ok ()
  | rest => .error (.inside .trailingCharacters rest)

/-- The value that a text consists of. -/
def Reader.runAll {α : Type} (reader : Reader α) (text : String) : Except Fault α :=
  match reader.run text.toList with
  | .error f => .error f
  | .ok (a, rest) => (readEnd rest).map fun () ↦ a

end HexSigner.Json
