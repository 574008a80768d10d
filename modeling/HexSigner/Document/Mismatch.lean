import HexSigner.Number.Shortest
import HexSigner.Text.Quoted

/-!
# What does not fit

A document can be well formed and still not hold what was asked for.  There are few ways in which
that happens, and they are the same whatever format the document is written in: something of another
kind stands there, or a name is none of those that are known.  Formats differ only in how they write
a number with a fraction, so that is left to them.
-/

set_option autoImplicit false

namespace HexSigner.Document

/-- What stands in a document. -/
inductive Found where
  | null
  | boolean (value : Bool)
  | integer (value : Int)
  | real (value : Binary64)
  | text (value : String)
  | sequence
  | map
deriving DecidableEq, Repr

/-- The wording of what stands in a document. -/
def Found.describe (realText : Binary64 → String) : Found → String
  | .null => "null"
  | .boolean b => "boolean `" ++ (if b then "true" else "false") ++ "`"
  | .integer i => "integer `" ++ toString i ++ "`"
  | .real x => "floating point `" ++ realText x ++ "`"
  | .text s => "string " ++ Text.quoted s
  | .sequence => "sequence"
  | .map => "map"

/-- Why something in a document does not fit. -/
inductive Mismatch where
  /-- Something of another kind stands there. -/
  | kind (found : Found) (expected : String)
  /-- The name of a choice is none of the known ones. -/
  | unknownName (name : String) (known : List String)
deriving DecidableEq, Repr

/-- The wording of a list of names. -/
def alternatives (names : List String) : String :=
  " or ".intercalate (names.map fun name ↦ "`" ++ name ++ "`")

/-- The wording of a mismatch. -/
def Mismatch.message (realText : Binary64 → String) : Mismatch → String
  | .kind found expected =>
    "invalid type: " ++ found.describe realText ++ ", expected " ++ expected
  | .unknownName name known =>
    "unknown variant `" ++ name ++ "`, expected " ++ alternatives known

/-- The string that stands in a document. -/
def Found.asText : Found → Except Mismatch String
  | .text s => .ok s
  | found => .error (.kind found "a string")

end HexSigner.Document
