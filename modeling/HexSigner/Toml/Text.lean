import HexSigner.Text.Basic
import HexSigner.Toml.Lexical

/-!
# Strings of TOML

There are four ways to write a string: between double quotes, with escapes, or between single
quotes, without; and each of them in one line, or over several lines between three quotes of its
kind.

Over several lines, a line break right after the opening quotes does not count, and every line break
stands for a line feed, whichever way it is written.  A backslash at the end of a line takes the
line break away, and all blanks and line breaks after it.  One or two quotes may stand anywhere,
even just before the closing quotes, so from a row of quotes the string takes at most two and the
last three close it.
-/

set_option autoImplicit false

namespace HexSigner.Toml

/-! ## Escapes -/

/-- The number that `n` hexadecimal digits at the front of a document append to `value`. -/
def hexDigits? : Nat → Nat → List Char → Option (Nat × List Char)
  | 0, value, cs => some (value, cs)
  | _ + 1, _, [] => none
  | n + 1, value, c :: cs =>
    match Text.hexDigit? c with
    | some d => hexDigits? n (16 * value + d) cs
    | none => none

theorem length_le_of_hexDigits? {n value m : Nat} {cs rest : List Char}
    (h : hexDigits? n value cs = some (m, rest)) : rest.length ≤ cs.length := by
  fun_induction hexDigits? n value cs <;> grind

/-- The character with a code point, if there is one. -/
def charOfNat? (n : Nat) : Option Char := if n.isValidChar then some (Char.ofNat n) else none

/-- Reads a character that is written as `n` hexadecimal digits. -/
def codePoint? (n : Nat) (cs : List Char) : Option (Char × List Char) :=
  match hexDigits? n 0 cs with
  | some (m, rest) => (charOfNat? m).map fun c ↦ (c, rest)
  | none => none

theorem length_le_of_codePoint? {n : Nat} {cs rest : List Char} {c : Char}
    (h : codePoint? n cs = some (c, rest)) : rest.length ≤ cs.length := by
  unfold codePoint? at h
  split at h
  · next hd =>
    have := length_le_of_hexDigits? hd
    grind [= Option.map_eq_some_iff]
  · simp at h

/-- Reads what follows after a backslash. -/
def escape? : List Char → Option (Char × List Char)
  | [] => none
  | c :: cs =>
    if c = 'b' then some ('\x08', cs)
    else if c = 't' then some ('\t', cs)
    else if c = 'n' then some ('\n', cs)
    else if c = 'f' then some ('\x0c', cs)
    else if c = 'r' then some ('\r', cs)
    else if c = '"' ∨ c = '\\' then some (c, cs)
    else if c = 'u' then codePoint? 4 cs
    else if c = 'U' then codePoint? 8 cs
    else none

theorem length_lt_of_escape? {cs rest : List Char} {c : Char} (h : escape? cs = some (c, rest)) :
    rest.length < cs.length := by
  unfold escape? at h
  split at h <;> grind [→ length_le_of_codePoint?]

/-! ## Strings in one line -/

/-- Reads a string between double quotes whose opening quote was read already. -/
def basicText (cs : List Char) : Option (List Char × List Char) :=
  match cs with
  | [] => none
  | c :: cs =>
    if c = '"' then some ([], cs)
    else if c = '\\' then
      match _ : escape? cs with
      | some (d, rest) => (basicText rest).map fun (s, left) ↦ (d :: s, left)
      | none => none
    else if isText c then (basicText cs).map fun (s, left) ↦ (c :: s, left)
    else none
termination_by cs.length
decreasing_by
  · have := length_lt_of_escape? ‹_›
    simp only [List.length_cons]
    omega
  · simp

theorem length_lt_of_basicText {cs s rest : List Char} (h : basicText cs = some (s, rest)) :
    rest.length < cs.length := by
  fun_induction basicText cs generalizing s with
  | _ => grind [= Option.map_eq_some_iff, → length_lt_of_escape?]

/-- Reads a string between single quotes whose opening quote was read already. -/
def literalText : List Char → Option (List Char × List Char)
  | [] => none
  | c :: cs =>
    if c = '\'' then some ([], cs)
    else if isText c then (literalText cs).map fun (s, left) ↦ (c :: s, left)
    else none

theorem length_lt_of_literalText {cs s rest : List Char} (h : literalText cs = some (s, rest)) :
    rest.length < cs.length := by
  fun_induction literalText cs generalizing s <;> grind [= Option.map_eq_some_iff]

/-! ## Strings over several lines -/

/-- What follows after a line break that comes right after the opening quotes. -/
def skipFirstBreak (cs : List Char) : List Char := (newline? cs).getD cs

theorem length_skipFirstBreak_le (cs : List Char) : (skipFirstBreak cs).length ≤ cs.length := by
  cases h : newline? cs with
  | none => simp [skipFirstBreak, h]
  | some rest =>
    have := length_lt_of_newline? h
    simp only [skipFirstBreak, h, Option.getD_some]
    omega

/-- What follows after blanks and line breaks. -/
def skipSpace (cs : List Char) : List Char :=
  match cs with
  | [] => []
  | c :: cs =>
    if isBlank c then skipSpace cs
    else
      match _ : newline? (c :: cs) with
      | some rest => skipSpace rest
      | none => c :: cs
termination_by cs.length
decreasing_by
  · simp
  · exact length_lt_of_newline? ‹_›

theorem length_skipSpace_le (cs : List Char) : (skipSpace cs).length ≤ cs.length := by
  fun_induction skipSpace cs <;> grind [→ length_lt_of_newline?]

/-- Reads the end of a string: two quotes were read that may close it. -/
def closing (quote : Char) : List Char → List Char × List Char
  | a :: b :: rest =>
    if a = quote ∧ b = quote then ([quote, quote], rest)
    else if a = quote then ([quote], b :: rest)
    else ([], a :: b :: rest)
  | [a] => if a = quote then ([quote], []) else ([], [a])
  | [] => ([], [])

theorem length_closing_le (quote : Char) (cs : List Char) :
    (closing quote cs).2.length ≤ cs.length := by
  fun_cases closing quote cs <;> grind

/-- What follows after three quotes. -/
def threeQuotes? (quote : Char) : List Char → Option (List Char)
  | a :: b :: c :: rest => if a = quote ∧ b = quote ∧ c = quote then some rest else none
  | _ => none

theorem length_lt_of_threeQuotes? {quote : Char} {cs rest : List Char}
    (h : threeQuotes? quote cs = some rest) : rest.length < cs.length := by
  unfold threeQuotes? at h
  grind

/-- Reads a string between three double quotes each, whose opening quotes were read already. -/
def basicLines (cs : List Char) : Option (List Char × List Char) :=
  match threeQuotes? '"' cs with
  | some rest => some (closing '"' rest)
  | none =>
    match cs with
    | [] => none
    | c :: cs =>
      if c = '\\' then
        match _ : newline? (skipBlank cs) with
        | some rest => basicLines (skipSpace rest)
        | none =>
          match _ : escape? cs with
          | some (d, rest) => (basicLines rest).map fun (s, left) ↦ (d :: s, left)
          | none => none
      else if isText c then (basicLines cs).map fun (s, left) ↦ (c :: s, left)
      else
        match _ : newline? (c :: cs) with
        | some rest => (basicLines rest).map fun (s, left) ↦ ('\n' :: s, left)
        | none => none
termination_by cs.length
decreasing_by
  all_goals grind [length_skipSpace_le, length_skipBlank_le, → length_lt_of_newline?,
    → length_lt_of_escape?]

theorem length_lt_of_basicLines {cs s rest : List Char} (h : basicLines cs = some (s, rest)) :
    rest.length < cs.length := by
  fun_induction basicLines cs generalizing s with
  | _ =>
    grind [= Option.map_eq_some_iff, length_skipSpace_le, length_skipBlank_le, length_closing_le,
      → length_lt_of_newline?, → length_lt_of_escape?, → length_lt_of_threeQuotes?]

/-- Reads a string between three single quotes each, whose opening quotes were read already. -/
def literalLines (cs : List Char) : Option (List Char × List Char) :=
  match threeQuotes? '\'' cs with
  | some rest => some (closing '\'' rest)
  | none =>
    match cs with
    | [] => none
    | c :: cs =>
      if isText c then (literalLines cs).map fun (s, left) ↦ (c :: s, left)
      else
        match _ : newline? (c :: cs) with
        | some rest => (literalLines rest).map fun (s, left) ↦ ('\n' :: s, left)
        | none => none
termination_by cs.length
decreasing_by
  all_goals grind [→ length_lt_of_newline?]

theorem length_lt_of_literalLines {cs s rest : List Char} (h : literalLines cs = some (s, rest)) :
    rest.length < cs.length := by
  fun_induction literalLines cs generalizing s with
  | _ =>
    grind [= Option.map_eq_some_iff, length_closing_le, → length_lt_of_newline?,
      → length_lt_of_threeQuotes?]

/-! ## All strings -/

/-- Reads a string in one line. -/
def lineText? : List Char → Option (List Char × List Char)
  | '"' :: cs => basicText cs
  | '\'' :: cs => literalText cs
  | _ => none

theorem length_lt_of_lineText? {cs s rest : List Char} (h : lineText? cs = some (s, rest)) :
    rest.length < cs.length := by
  unfold lineText? at h
  split at h <;> grind [→ length_lt_of_basicText, → length_lt_of_literalText]

/-- Reads a string in any of the four ways. -/
def text? (cs : List Char) : Option (List Char × List Char) :=
  match threeQuotes? '"' cs with
  | some rest => basicLines (skipFirstBreak rest)
  | none =>
    match threeQuotes? '\'' cs with
    | some rest => literalLines (skipFirstBreak rest)
    | none => lineText? cs

theorem length_lt_of_text? {cs s rest : List Char} (h : text? cs = some (s, rest)) :
    rest.length < cs.length := by
  grind [text?, length_skipFirstBreak_le, → length_lt_of_threeQuotes?, → length_lt_of_basicLines,
    → length_lt_of_literalLines, → length_lt_of_lineText?]

end HexSigner.Toml
