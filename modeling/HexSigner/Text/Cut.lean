import HexSigner.Text.Basic
import HexSigner.Text.Quoted

/-!
# Cutting texts at places in bytes

A place in a text is a number of bytes, and a text can only be cut where a character ends.

* `between` is the part of a text between two places;
* `straddled?` is the character that a place is in the middle of, if it is;
* `cut` is the part between two places, unless one of them is in the middle of a character.
-/

set_option autoImplicit false

namespace HexSigner.Text

/-- The characters that start between two places, in a text that starts at `offset`. -/
def between (start stop offset : Nat) : List Char → List Char
  | [] => []
  | c :: cs =>
    let rest := between start stop (offset + c.utf8Size) cs
    if start ≤ offset ∧ offset < stop then c :: rest else rest

/-- The character that a place is in the middle of, with the place where that character starts, in a
text that starts at `offset`. -/
def straddled? (place offset : Nat) : List Char → Option (Nat × Char)
  | [] => none
  | c :: cs =>
    if offset < place ∧ place < offset + c.utf8Size then some (offset, c)
    else straddled? place (offset + c.utf8Size) cs

/-- Which end of a part a place is. -/
inductive Side where
  | start
  | stop
deriving DecidableEq, Repr

/-- The name of an end. -/
def Side.name : Side → String
  | .start => "start"
  | .stop => "end"

/-- An end of a part in the middle of a character. -/
structure Straddle where
  side : Side
  place : Nat
  /-- The place where the character starts. -/
  first : Nat
  character : Char
deriving DecidableEq, Repr

/-- The part of a text between two places. -/
def cut (start stop : Nat) (cs : List Char) : Except Straddle (List Char) :=
  match straddled? start 0 cs, straddled? stop 0 cs with
  | some (first, c), _ => .error ⟨.start, start, first, c⟩
  | none, some (first, c) => .error ⟨.stop, stop, first, c⟩
  | none, none => .ok (between start stop 0 cs)

/-- The wording of an end in the middle of a character. -/
def Straddle.message (s : Straddle) : String :=
  s.side.name ++ " byte index " ++ toString s.place ++
    " is not a char boundary; it is inside " ++ quotedChar s.character ++ " (bytes " ++
    toString s.first ++ ".." ++ toString (s.first + s.character.utf8Size) ++ " of string)"

end HexSigner.Text
