import HexSigner.Pattern.Flags
import HexSigner.Text.Basic

/-!
# Characters and escapes of patterns

The smallest parts of a pattern are characters and escapes.  A backslash makes an ordinary character
of any ASCII character but a letter or digit; letters have meanings of their own.

Nothing is known here of the cases and classes of Unicode.  So a pattern about characters can
neither ignore case nor use a class such as that of digits, and a pattern about bytes must not match
what is no ASCII byte.
-/

set_option autoImplicit false

namespace HexSigner.Pattern

/-- A smallest part of a pattern. -/
inductive Atom where
  /-- A character; `isByte` if it is written as the number of a byte. -/
  | character (c : Char) (isByte : Bool)
  /-- A place at the end of the text. -/
  | textBoundary
  /-- A place at the end of a word, or one that is none. -/
  | wordBoundary
  /-- The class of digits, of blanks, or of characters of words, or all that are not in it. -/
  | wordClass (negated : Bool)
deriving DecidableEq, Repr

namespace Atom

/-- Whether an atom can be used by itself. -/
def isUsable (f : Flags) : Atom → Bool
  | .character c isByte => if f.unicode then !f.ignoreCase else !isByte || c.toNat < 0x80
  | .textBoundary => true
  | .wordBoundary => true
  | .wordClass negated => !f.unicode && !negated

/-- Whether an atom can be used in a class. -/
def isUsableInClass (f : Flags) : Atom → Bool
  | .character c _ => if f.unicode then !f.ignoreCase else c.toNat < 0x80
  | .textBoundary => false
  | .wordBoundary => false
  | .wordClass negated => !f.unicode && !negated

end Atom

/-! ## Escapes -/

/-- The number of digits in an escape that gives the number of a character. -/
def codeLength? (letter : Char) : Option Nat :=
  [('x', 2), ('u', 4), ('U', 8)].lookup letter

/-- The control character that a letter stands for. -/
def controlCharacter? (letter : Char) : Option Char :=
  [('a', '\x07'), ('f', '\x0c'), ('t', '\t'), ('n', '\n'), ('r', '\r'), ('v', '\x0b')].lookup letter

/-- Reads `n` hexadecimal digits, with blanks after each, and appends them to `value`. -/
def readDigits (f : Flags) : Nat → Nat → List Char → Option (Nat × List Char)
  | 0, value, cs => some (value, cs)
  | _ + 1, _, [] => none
  | n + 1, value, c :: cs =>
    match Text.hexDigit? c with
    | some d => readDigits f n (16 * value + d) (f.skip cs)
    | none => none

/-- Reads the number of a character. -/
def readCode (f : Flags) (length : Nat) (cs : List Char) : Option (Char × List Char) :=
  match readDigits f length 0 (f.skip cs) with
  | some (n, rest) => if n.isValidChar then some (Char.ofNat n, rest) else none
  | none => none

/-- Reads what follows after a backslash. -/
def readEscape (f : Flags) : List Char → Option (Atom × List Char)
  | [] => none
  | c :: cs =>
    match codeLength? c, controlCharacter? c with
    | some n, _ => (readCode f n cs).map fun (d, rest) ↦ (.character d (c = 'x'), rest)
    | none, some d => some (.character d false, cs)
    | none, none =>
      if ['d', 's', 'w', 'D', 'S', 'W'].contains c then some (.wordClass c.isUpper, cs)
      else if c = 'A' ∨ c = 'z' then some (.textBoundary, cs)
      else if ['b', 'B', '<', '>'].contains c then some (.wordBoundary, cs)
      else if c.toNat < 0x80 ∧ ¬ c.isAlphanum then some (.character c false, cs)
      else none

/-- Reads a character or an escape. -/
def readAtom (f : Flags) : List Char → Option (Atom × List Char)
  | [] => none
  | '\\' :: cs => readEscape f cs
  | c :: cs => some (.character c false, cs)

end HexSigner.Pattern
