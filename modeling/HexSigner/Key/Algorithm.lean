import HexSigner.Der.Element

/-!
# The algorithm of a key document

Key documents of both kinds name the algorithm that the key is for: an object identifier and,
optionally, one element of parameters.  Ed25519 has the identifier `1.3.101.112` and no parameters.
-/

set_option autoImplicit false

namespace HexSigner.Key

open Der Decoder

/-- An algorithm as a key document names it. -/
structure Algorithm where
  /-- The bytes of the object identifier. -/
  identifier : List UInt8
  /-- Whether an element of parameters follows. -/
  hasParameters : Bool
deriving DecidableEq, Repr

namespace Algorithm

/-- The identifier `1.3.101.112` of Ed25519. -/
def ed25519Identifier : List UInt8 := [0x2b, 0x65, 0x70]

/-- How messages write the identifier of Ed25519. -/
def ed25519Name : String := "1.3.101.112"

/-- An optional element of parameters. -/
def parameters : Decoder Bool := do
  match ← peek? with
  | none => return false
  | some b =>
    let _ ← tagOfByte b
    let _ ← any
    return true

/-- The algorithm of a key document. -/
def decoder : Decoder Algorithm :=
  sequence do
    let identifier ← located objectIdentifier
    return ⟨identifier, ← located parameters⟩

end Algorithm

end HexSigner.Key
