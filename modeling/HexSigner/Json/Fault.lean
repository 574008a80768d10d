import HexSigner.Document.Mismatch
import HexSigner.Text.Basic

/-!
# Faults of JSON texts

A text is read from left to right, and the first thing that is wrong with it is reported together
with the place where it shows.  A fault keeps the place as the number of bytes that are left, which
does not depend on what was read before; only the message turns it into a line and a column.
-/

set_option autoImplicit false

namespace HexSigner.Json

/-- What is wrong with a JSON text. -/
inductive Cause where
  | endOfList
  | endOfObject
  | endOfString
  | endOfValue
  | expectedColon
  | expectedListEnd
  | expectedObjectEnd
  /-- A word that starts like `true`, `false` or `null` goes on differently. -/
  | expectedWord
  | expectedValue
  | badEscape
  | badNumber
  | numberTooLarge
  | controlCharacter
  | keyNotString
  | loneSurrogate
  | missingSurrogate
  | trailingComma
  | trailingCharacters
  | repeatedField (name : String)
  | mismatch (mismatch : Document.Mismatch)
deriving DecidableEq, Repr

/-- The wording of a cause. -/
def Cause.message : Cause → String
  | .endOfList => "EOF while parsing a list"
  | .endOfObject => "EOF while parsing an object"
  | .endOfString => "EOF while parsing a string"
  | .endOfValue => "EOF while parsing a value"
  | .expectedColon => "expected `:`"
  | .expectedListEnd => "expected `,` or `]`"
  | .expectedObjectEnd => "expected `,` or `\x7d`"
  | .expectedWord => "expected ident"
  | .expectedValue => "expected value"
  | .badEscape => "invalid escape"
  | .badNumber => "invalid number"
  | .numberTooLarge => "number out of range"
  | .controlCharacter => "control character (\\u0000-\\u001F) found while parsing a string"
  | .keyNotString => "key must be a string"
  | .loneSurrogate => "lone leading surrogate in hex escape"
  | .missingSurrogate => "unexpected end of hex escape"
  | .trailingComma => "trailing comma"
  | .trailingCharacters => "trailing characters"
  | .repeatedField name => "duplicate field `" ++ name ++ "`"
  | .mismatch m => m.message Binary64.compactText

/-- What is wrong with a JSON text, and the number of bytes that are left where it shows. -/
structure Fault where
  cause : Cause
  left : Nat
deriving DecidableEq, Repr

/-- The wording of a fault of a text. -/
def Fault.message (text : String) (f : Fault) : String :=
  let (line, column) := Text.place text f.left
  f.cause.message ++ " at line " ++ toString line ++ " column " ++ toString column

/-- A fault that shows before the rest of a text. -/
def Fault.before (cause : Cause) (rest : List Char) : Fault := ⟨cause, Text.byteLength rest⟩

/-- A fault that shows in the first byte of the rest of a text, if there is one. -/
def Fault.inside (cause : Cause) (rest : List Char) : Fault := ⟨cause, Text.byteLength rest - 1⟩

end HexSigner.Json
