/-!
# Blanks, line ends and comments of TOML

The parts of a TOML document that carry no value.  Every function takes what is left of a document
and returns what is left after the part it read.  A document that is not well formed is refused
without saying where, so a failure is just `none`.

Lines end with a line feed, with or without a carriage return before it; a carriage return on its
own may stand nowhere.  Neither may any other control character but a tab, not even in a comment.
-/

set_option autoImplicit false

namespace HexSigner.Toml

/-- A way to read something from the front of a document. -/
structure Reader (α : Type) where
  /-- What was read, and what is left of the document. -/
  run : List Char → Option (α × List Char)
  length_lt : ∀ {cs : List Char} {a : α} {rest : List Char},
    run cs = some (a, rest) → rest.length < cs.length

/-- A character that may stand between the parts of a line. -/
def isBlank (c : Char) : Bool := c = ' ' || c = '\t'

/-- What follows after blanks. -/
def skipBlank (cs : List Char) : List Char := cs.dropWhile isBlank

theorem length_skipBlank_le (cs : List Char) : (skipBlank cs).length ≤ cs.length :=
  (List.dropWhile_suffix _).sublist.length_le

/-- What follows after a line break. -/
def newline? : List Char → Option (List Char)
  | '\n' :: rest => some rest
  | '\r' :: '\n' :: rest => some rest
  | _ => none

theorem length_lt_of_newline? {cs rest : List Char} (h : newline? cs = some rest) :
    rest.length < cs.length := by
  unfold newline? at h
  split at h <;> grind

/-- A character that may stand in a comment. -/
def isText (c : Char) : Bool :=
  c = '\t' || (0x20 ≤ c.toNat && c.toNat ≤ 0x7e) || 0x80 ≤ c.toNat

/-- What follows after a comment, if there is one. -/
def skipComment : List Char → List Char
  | '#' :: cs => cs.dropWhile isText
  | cs => cs

theorem length_skipComment_le (cs : List Char) : (skipComment cs).length ≤ cs.length := by
  unfold skipComment
  split
  · exact Nat.le_succ_of_le (List.dropWhile_suffix _).sublist.length_le
  · exact Nat.le_refl _

/-- Reads what may stand at the end of a line: blanks, a comment, and the line break unless the
document ends there. -/
def lineEnd (cs : List Char) : Option (List Char) :=
  match skipComment (skipBlank cs) with
  | [] => some []
  | rest => newline? rest

theorem length_lineEnd_le {cs rest : List Char} (h : lineEnd cs = some rest) :
    rest.length ≤ cs.length := by
  grind [lineEnd, length_skipBlank_le, length_skipComment_le, → length_lt_of_newline?]

/-- What follows after blanks, line breaks and comments. -/
def skipFiller (cs : List Char) : List Char :=
  match cs with
  | [] => []
  | c :: cs =>
    if isBlank c then skipFiller cs
    else if c = '#' then skipFiller (cs.dropWhile isText)
    else
      match _ : newline? (c :: cs) with
      | some rest => skipFiller rest
      | none => c :: cs
termination_by cs.length
decreasing_by
  · simp
  · exact Nat.lt_succ_of_le (List.dropWhile_suffix _).sublist.length_le
  · exact length_lt_of_newline? ‹_›

theorem length_skipFiller_le (cs : List Char) : (skipFiller cs).length ≤ cs.length := by
  fun_induction skipFiller cs with
  | case1 => simp
  | case2 => grind
  | case3 cs _ ih =>
    have := (List.dropWhile_suffix (l := cs) isText).sublist.length_le
    grind
  | case4 => grind [→ length_lt_of_newline?]
  | case5 => simp

/-- Reads a given word. -/
def word? : List Char → List Char → Option (List Char)
  | [], cs => some cs
  | _ :: _, [] => none
  | w :: word, c :: cs => if c = w then word? word cs else none

theorem length_word?_le {word cs rest : List Char} (h : word? word cs = some rest) :
    rest.length ≤ cs.length := by
  induction word generalizing cs with
  | nil => simp_all [word?]
  | cons w word ih =>
    cases cs with
    | nil => simp [word?] at h
    | cons c cs =>
      simp only [word?] at h
      split at h
      · exact Nat.le_trans (ih h) (Nat.le_succ _)
      · simp at h

end HexSigner.Toml
