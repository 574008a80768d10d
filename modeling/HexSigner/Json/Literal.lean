import HexSigner.Json.Fault
import HexSigner.Text.Basic

/-!
# Blanks, words and strings of JSON

The parts of a JSON text that do not contain other values, numbers apart.  Every function here takes
what is left of a text and returns what is left after the part it read, which is always shorter.

A string may write any character as the hexadecimal form of its code point.  A character outside of
the basic plane takes two such escapes, a leading and a trailing surrogate, and either of them
without the other is refused.  In a string that nobody asked for only the form of an escape counts.
-/

set_option autoImplicit false

namespace HexSigner.Json

/-! ## Blanks and words -/

/-- A character that may stand between the parts of a text. -/
def isBlank (c : Char) : Bool := c = ' ' || c = '\n' || c = '\t' || c = '\r'

/-- What follows after blanks. -/
def skipBlank (cs : List Char) : List Char := cs.dropWhile isBlank

theorem length_skipBlank_le (cs : List Char) : (skipBlank cs).length ≤ cs.length :=
  (List.dropWhile_suffix _).sublist.length_le

/-- Reads a given word. -/
def skipWord : List Char → List Char → Except Fault (List Char)
  | [], cs => .ok cs
  | _ :: _, [] => .error (.before .endOfValue [])
  | w :: word, c :: cs =>
    if c = w then skipWord word cs else .error (.inside .expectedWord (c :: cs))

theorem length_skipWord_le {word cs rest : List Char} (h : skipWord word cs = .ok rest) :
    rest.length ≤ cs.length := by
  induction word generalizing cs with
  | nil => simp_all [skipWord]
  | cons w word ih =>
    cases cs with
    | nil => simp [skipWord] at h
    | cons c cs =>
      simp only [skipWord] at h
      split at h
      · exact Nat.le_trans (ih h) (Nat.le_succ _)
      · simp at h

/-! ## Strings -/

/-- The character that a backslash and a letter stand for. -/
def simpleEscape? (c : Char) : Option Char :=
  if c = '"' ∨ c = '\\' ∨ c = '/' then some c
  else if c = 'b' then some '\x08'
  else if c = 'f' then some '\x0c'
  else if c = 'n' then some '\n'
  else if c = 'r' then some '\r'
  else if c = 't' then some '\t'
  else none

/-- The number that four hexadecimal digits stand for. -/
def fourDigits? (a b c d : Char) : Option Nat :=
  match Text.hexDigit? a, Text.hexDigit? b, Text.hexDigit? c, Text.hexDigit? d with
  | some p, some q, some r, some s => some (4096 * p + 256 * q + 16 * r + s)
  | _, _, _, _ => none

/-- Why the next four bytes are not hexadecimal digits. -/
def noDigits (cs : List Char) : Fault :=
  if Text.byteLength cs < 4 then .before .endOfString []
  else ⟨.badEscape, Text.byteLength cs - 4⟩

/-- Reads four hexadecimal digits. -/
def readFourDigits : List Char → Except Fault (Nat × List Char)
  | a :: b :: c :: d :: rest =>
    match fourDigits? a b c d with
    | some n => .ok (n, rest)
    | none => .error (noDigits (a :: b :: c :: d :: rest))
  | cs => .error (noDigits cs)

theorem length_lt_of_readFourDigits {cs rest : List Char} {n : Nat}
    (h : readFourDigits cs = .ok (n, rest)) : rest.length < cs.length := by
  unfold readFourDigits at h
  split at h
  · split at h
    · obtain ⟨-, rfl⟩ := Prod.mk.injEq .. ▸ Except.ok.injEq .. ▸ h
      simp only [List.length_cons]
      omega
    · simp at h
  · simp at h

/-- A leading surrogate, the first half of a character outside of the basic plane. -/
def isLeading (n : Nat) : Bool := 0xD800 ≤ n && n ≤ 0xDBFF

/-- A trailing surrogate, the second half of a character outside of the basic plane. -/
def isTrailing (n : Nat) : Bool := 0xDC00 ≤ n && n ≤ 0xDFFF

/-- Reads the escape that has to follow after the leading surrogate `n`. -/
def readTrailing (n : Nat) : List Char → Except Fault (Char × List Char)
  | [] => .error (.before .endOfString [])
  | ['\\'] => .error (.before .endOfString [])
  | '\\' :: 'u' :: cs =>
    match readFourDigits cs with
    | .error f => .error f
    | .ok (m, rest) =>
      if isTrailing m then
        .ok (Char.ofNat (0x10000 + 1024 * (n - 0xD800) + (m - 0xDC00)), rest)
      else .error (.before .loneSurrogate rest)
  | '\\' :: cs => .error (.inside .missingSurrogate cs)
  | cs => .error (.inside .missingSurrogate cs)

theorem length_lt_of_readTrailing {n : Nat} {cs rest : List Char} {c : Char}
    (h : readTrailing n cs = .ok (c, rest)) : rest.length < cs.length := by
  unfold readTrailing at h
  split at h <;> try simp at h
  split at h
  · simp at h
  · next hr =>
    split at h
    · obtain ⟨-, rfl⟩ := Prod.mk.injEq .. ▸ Except.ok.injEq .. ▸ h
      have := length_lt_of_readFourDigits hr
      simp only [List.length_cons]
      omega
    · simp at h

/-- Reads what follows after a backslash. -/
def readEscape : List Char → Except Fault (Char × List Char)
  | [] => .error (.before .endOfString [])
  | 'u' :: cs =>
    match readFourDigits cs with
    | .error f => .error f
    | .ok (n, rest) =>
      if isTrailing n then .error (.before .loneSurrogate rest)
      else if isLeading n then readTrailing n rest
      else .ok (Char.ofNat n, rest)
  | c :: cs =>
    match simpleEscape? c with
    | some d => .ok (d, cs)
    | none => .error (.inside .badEscape (c :: cs))

theorem length_lt_of_readEscape {cs rest : List Char} {c : Char}
    (h : readEscape cs = .ok (c, rest)) : rest.length < cs.length := by
  unfold readEscape at h
  split at h
  · simp at h
  · split at h
    · simp at h
    · next hr =>
      have := length_lt_of_readFourDigits hr
      split at h
      · simp at h
      · split at h
        · have := length_lt_of_readTrailing h
          simp only [List.length_cons]
          omega
        · obtain ⟨-, rfl⟩ := Prod.mk.injEq .. ▸ Except.ok.injEq .. ▸ h
          simp only [List.length_cons]
          omega
  · split at h
    · obtain ⟨-, rfl⟩ := Prod.mk.injEq .. ▸ Except.ok.injEq .. ▸ h
      simp
    · simp at h

/-- Reads a string whose opening quote was read already. -/
def readString (cs : List Char) : Except Fault (List Char × List Char) :=
  match cs with
  | [] => .error (.before .endOfString [])
  | c :: cs =>
    if c = '"' then .ok ([], cs)
    else if c = '\\' then
      match _ : readEscape cs with
      | .error f => .error f
      | .ok (d, rest) => (readString rest).map fun (s, left) ↦ (d :: s, left)
    else if c.toNat < 0x20 then .error (.before .controlCharacter cs)
    else (readString cs).map fun (s, left) ↦ (c :: s, left)
termination_by cs.length
decreasing_by
  · have := length_lt_of_readEscape ‹_›
    simp only [List.length_cons]
    omega
  · simp

theorem length_lt_of_readString {cs s rest : List Char} (h : readString cs = .ok (s, rest)) :
    rest.length < cs.length := by
  fun_induction readString cs generalizing s with
  | case1 => simp at h
  | case2 cs =>
    obtain ⟨-, rfl⟩ := Prod.mk.injEq .. ▸ Except.ok.injEq .. ▸ h
    simp
  | case3 => simp at h
  | case4 cs d left hr _ ih =>
    cases hs : readString left with
    | error f => simp [hs, Except.map] at h
    | ok p =>
      simp only [hs, Except.map, Except.ok.injEq, Prod.mk.injEq] at h
      have := ih (hs.trans (by rw [← h.2]))
      have := length_lt_of_readEscape hr
      simp only [List.length_cons]
      omega
  | case5 => simp at h
  | case6 c cs _ _ _ ih =>
    cases hs : readString cs with
    | error f => simp [hs, Except.map] at h
    | ok p =>
      simp only [hs, Except.map, Except.ok.injEq, Prod.mk.injEq] at h
      have := ih (hs.trans (by rw [← h.2]))
      simp only [List.length_cons]
      omega

/-- Passes over what follows after a backslash. -/
def skipEscape : List Char → Except Fault (List Char)
  | [] => .error (.before .endOfString [])
  | 'u' :: cs => (readFourDigits cs).map (·.2)
  | c :: cs =>
    match simpleEscape? c with
    | some _ => .ok cs
    | none => .error (.inside .badEscape (c :: cs))

theorem length_lt_of_skipEscape {cs rest : List Char} (h : skipEscape cs = .ok rest) :
    rest.length < cs.length := by
  unfold skipEscape at h
  split at h
  · simp at h
  · next cs =>
    cases hr : readFourDigits cs with
    | error f => simp [hr, Except.map] at h
    | ok p =>
      obtain ⟨n, left⟩ := p
      obtain rfl : left = rest := by simpa [hr, Except.map] using h
      have := length_lt_of_readFourDigits hr
      simp only [List.length_cons]
      omega
  · split at h
    · obtain rfl := Except.ok.injEq .. ▸ h
      simp
    · simp at h

/-- Passes over a string whose opening quote was read already. -/
def skipString (cs : List Char) : Except Fault (List Char) :=
  match cs with
  | [] => .error (.before .endOfString [])
  | c :: cs =>
    if c = '"' then .ok cs
    else if c = '\\' then
      match _ : skipEscape cs with
      | .error f => .error f
      | .ok rest => skipString rest
    else if c.toNat < 0x20 then .error (.before .controlCharacter (c :: cs))
    else skipString cs
termination_by cs.length
decreasing_by
  · have := length_lt_of_skipEscape ‹_›
    simp only [List.length_cons]
    omega
  · simp

theorem length_lt_of_skipString {cs rest : List Char} (h : skipString cs = .ok rest) :
    rest.length < cs.length := by
  fun_induction skipString cs with
  | case1 => simp at h
  | case2 => simp_all
  | case3 => simp at h
  | case4 cs left hr _ ih =>
    have := ih h
    have := length_lt_of_skipEscape hr
    simp only [List.length_cons]
    omega
  | case5 => simp at h
  | case6 c cs _ _ _ ih =>
    have := ih h
    simp only [List.length_cons]
    omega

end HexSigner.Json
