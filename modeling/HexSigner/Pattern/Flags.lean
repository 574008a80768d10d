import HexSigner.Text.Word

/-!
# Flags of patterns

Flags change how the rest of a group is read.  They are written as letters; those after a dash are
switched off, and the others on.  No letter may be given twice, and something has to follow after
the dash.

Of the seven flags, three decide whether a pattern can be used, and only those are kept.
-/

set_option autoImplicit false

namespace HexSigner.Pattern

/-- How a pattern is read. -/
structure Flags where
  /-- Letters stand for both of their cases. -/
  ignoreCase : Bool := false
  /-- The pattern is about characters; otherwise it is about bytes. -/
  unicode : Bool := true
  /-- Blanks and comments between the parts of the pattern do not count. -/
  verbose : Bool := false
deriving DecidableEq, Repr

namespace Flags

/-- The letters of the flags. -/
def letters : List Char := ['i', 'm', 's', 'U', 'u', 'R', 'x']

/-- The flags after the one with the given letter is switched. -/
def switch (value : Bool) (f : Flags) (letter : Char) : Flags :=
  if letter = 'i' then { f with ignoreCase := value }
  else if letter = 'u' then { f with unicode := value }
  else if letter = 'x' then { f with verbose := value }
  else f

/-- Whether a text may change flags. -/
def isChange (text : List Char) : Bool :=
  text.all (fun c ↦ c = '-' || letters.contains c) && text.Nodup && text.getLast? ≠ some '-'

/-- The flags after a change. -/
def change (f : Flags) (text : List Char) : Flags :=
  let (on, off) := text.span (· ≠ '-')
  off.foldl (switch false) (on.foldl (switch true) f)

end Flags

/-! ## Blanks -/

/-- A text without the blanks and comments in front.  A comment goes from `#` to the end of its
line. -/
def skipBlanks (inComment : Bool) : List Char → List Char
  | [] => []
  | c :: cs =>
    if inComment then skipBlanks (c ≠ '\n') cs
    else if Text.isWhiteSpace c then skipBlanks false cs
    else if c = '#' then skipBlanks true cs
    else c :: cs

/-- A text without what does not count in front. -/
def Flags.skip (f : Flags) (cs : List Char) : List Char :=
  if f.verbose then skipBlanks false cs else cs

/-- The character after blanks, looked at from the one before them.  The marker of a comment is
taken for a blank, but the comment is not. -/
def Flags.glance? (f : Flags) (cs : List Char) : Option Char :=
  if f.verbose then
    let blank := cs.dropWhile Text.isWhiteSpace
    let seen := match blank with
      | '#' :: rest => rest.dropWhile Text.isWhiteSpace
      | rest => rest
    (seen.head?) <|> cs.head?
  else cs.head?

end HexSigner.Pattern
