import HexSigner.Json.Literal
import HexSigner.Json.Numeral

/-!
# Values that nobody asked for

A document may have more fields than are known.  Their values are passed over: they have to be well
formed, but numbers may have any size and strings any escapes, and values may be nested to any
depth.  For that reason the brackets that are still open are kept in a list, and the depth of the
recursion does not matter.
-/

set_option autoImplicit false

namespace HexSigner.Json

/-- A bracket that is still open. -/
inductive Bracket where
  | list
  | object
deriving DecidableEq, Repr

namespace Bracket

/-- What is wrong when a text ends within the bracket. -/
def atEnd : Bracket → Cause
  | .list => .endOfList
  | .object => .endOfObject

/-- What is wrong when neither a comma nor the closing bracket follows after a value. -/
def expectedEnd : Bracket → Cause
  | .list => .expectedListEnd
  | .object => .expectedObjectEnd

/-- The closing bracket. -/
def closing : Bracket → Char
  | .list => ']'
  | .object => '\x7d'

end Bracket

/-- Reads the colon after a key. -/
def readColon (cs : List Char) : Except Fault (List Char) :=
  match skipBlank cs with
  | [] => .error (.before .endOfObject [])
  | c :: rest => if c = ':' then .ok rest else .error (.inside .expectedColon (c :: rest))

theorem length_lt_of_readColon {cs rest : List Char} (h : readColon cs = .ok rest) :
    rest.length < cs.length := by
  have := length_skipBlank_le cs
  unfold readColon at h
  split at h
  · simp at h
  · next hb =>
    split at h
    · obtain rfl := Except.ok.injEq .. ▸ h
      simp_all only [List.length_cons]
      omega
    · simp at h

/-- Passes over a key and its colon. -/
def skipKey (cs : List Char) : Except Fault (List Char) :=
  match skipBlank cs with
  | [] => .error (.before .endOfObject [])
  | c :: rest =>
    if c = '"' then
      match skipString rest with
      | .error f => .error f
      | .ok rest => readColon rest
    else .error (.inside .keyNotString (c :: rest))

theorem length_lt_of_skipKey {cs rest : List Char} (h : skipKey cs = .ok rest) :
    rest.length < cs.length := by
  have := length_skipBlank_le cs
  unfold skipKey at h
  split at h
  · simp at h
  · next hb =>
    split at h
    · split at h
      · simp at h
      · next hs =>
        have := length_lt_of_skipString hs
        have := length_lt_of_readColon h
        simp_all only [List.length_cons]
        omega
    · simp at h

/-- Passes over a value that contains no other values. -/
def skipScalar : List Char → Except Fault (List Char)
  | [] => .error (.before .endOfValue [])
  | c :: cs =>
    if c = 'n' then skipWord "ull".toList cs
    else if c = 't' then skipWord "rue".toList cs
    else if c = 'f' then skipWord "alse".toList cs
    else if c = '"' then skipString cs
    else if c = '-' then (readNumeral .badNumber true cs).map (·.2)
    else if c.isDigit then (readNumeral .badNumber false (c :: cs)).map (·.2)
    else .error (.inside .expectedValue (c :: cs))

theorem length_lt_of_skipScalar {cs rest : List Char} (h : skipScalar cs = .ok rest) :
    rest.length < cs.length := by
  have number {negative : Bool} {ds : List Char}
      (h : (readNumeral .badNumber negative ds).map (·.2) = .ok rest) :
      rest.length < ds.length := by
    cases hn : readNumeral .badNumber negative ds with
    | error f => simp [hn, Except.map] at h
    | ok p =>
      obtain ⟨n, left⟩ := p
      obtain rfl : left = rest := by simpa [hn, Except.map] using h
      exact length_lt_of_readNumeral hn
  unfold skipScalar at h
  split at h
  · simp at h
  · simp only [List.length_cons]
    split at h
    · exact Nat.lt_succ_of_le (length_skipWord_le h)
    split at h
    · exact Nat.lt_succ_of_le (length_skipWord_le h)
    split at h
    · exact Nat.lt_succ_of_le (length_skipWord_le h)
    split at h
    · exact Nat.lt_succ_of_lt (length_lt_of_skipString h)
    split at h
    · exact Nat.lt_succ_of_lt (number h)
    split at h
    · exact number h
    · simp at h

mutual

/-- Passes over a value and whatever closes the brackets around it. -/
def skipWithin (brackets : List Bracket) (cs : List Char) : Except Fault (List Char) :=
  match _ : skipBlank cs with
  | [] => .error (.before .endOfValue [])
  | '[' :: rest =>
    match _ : skipBlank rest with
    | [] => .error (.before .endOfList [])
    | ']' :: rest => skipClosing brackets rest
    | rest => skipWithin (.list :: brackets) rest
  | '\x7b' :: rest =>
    match _ : skipBlank rest with
    | [] => .error (.before .endOfObject [])
    | '\x7d' :: rest => skipClosing brackets rest
    | rest =>
      match _ : skipKey rest with
      | .error f => .error f
      | .ok rest => skipWithin (.object :: brackets) rest
  | c :: rest =>
    match _ : skipScalar (c :: rest) with
    | .error f => .error f
    | .ok rest => skipClosing brackets rest
termination_by cs.length
decreasing_by
  all_goals grind [length_skipBlank_le, → length_lt_of_skipKey, → length_lt_of_skipScalar]

/-- Passes over what closes open brackets, and over further values in them. -/
def skipClosing (brackets : List Bracket) (cs : List Char) : Except Fault (List Char) :=
  match brackets with
  | [] => .ok cs
  | b :: brackets =>
    match _ : skipBlank cs with
    | [] => .error (.before b.atEnd [])
    | c :: rest =>
      if c = b.closing then skipClosing brackets rest
      else if c ≠ ',' then .error (.inside b.expectedEnd (c :: rest))
      else
        match b with
        | .list => skipWithin (.list :: brackets) rest
        | .object =>
          match _ : skipKey rest with
          | .error f => .error f
          | .ok rest => skipWithin (.object :: brackets) rest
termination_by cs.length
decreasing_by
  all_goals grind [length_skipBlank_le, → length_lt_of_skipKey]

end

/-- Passing over values shortens the text, and closing brackets does not lengthen it. -/
theorem length_of_skip :
    (∀ brackets cs, ∀ rest, skipWithin brackets cs = .ok rest → rest.length < cs.length) ∧
      ∀ brackets cs, ∀ rest, skipClosing brackets cs = .ok rest → rest.length ≤ cs.length := by
  apply skipWithin.mutual_induct
    (fun brackets cs ↦ ∀ rest, skipWithin brackets cs = .ok rest → rest.length < cs.length)
    (fun brackets cs ↦ ∀ rest, skipClosing brackets cs = .ok rest → rest.length ≤ cs.length)
  all_goals
    grind [skipWithin, skipClosing, length_skipBlank_le, → length_lt_of_skipKey,
      → length_lt_of_skipScalar]

/-- Passes over a value. -/
def skipValue (cs : List Char) : Except Fault (List Char) := skipWithin [] cs

theorem length_lt_of_skipValue {cs rest : List Char} (h : skipValue cs = .ok rest) :
    rest.length < cs.length :=
  length_of_skip.1 _ _ _ h

end HexSigner.Json
