import HexSigner.Ed25519
import HexSigner.Key.Algorithm

/-!
# Public key documents

A public key travels as a DER document of 44 bytes: a sequence of the algorithm and a bit string
with the 32 bytes of the key.  Writing puts a fixed header of twelve bytes in front of the key.
Reading goes through the general DER reader, which knows nothing of that header, and then asks for
the right algorithm, no parameters, and 32 bytes that encode a point.
-/

set_option autoImplicit false

namespace HexSigner.Key.PublicDocument

open Der Decoder

/-- What keeps bytes from being a public key document. -/
inductive Fault where
  /-- The bytes are not the DER of such a document. -/
  | der (fault : Der.Fault)
  /-- The key is for another algorithm. -/
  | otherAlgorithm
  /-- There are parameters, or the key is not 32 bytes that encode a point. -/
  | badKey
deriving DecidableEq, Repr

/-- The wording of a fault. -/
def Fault.message : Fault → String
  | .der f => "ASN.1 error: " ++ f.message
  | .otherAlgorithm => "unknown/unsupported algorithm OID: " ++ Algorithm.ed25519Name
  | .badKey => "SPKI cryptographic key data malformed"

/-- What a public key document holds: the algorithm, and the key if it consists of whole bytes. -/
def contents : Decoder (Algorithm × Option (List UInt8)) :=
  sequence do
    let algorithm ← located Algorithm.decoder
    return (algorithm, ← bitString)

/-- The public key in a document. -/
def decode (document : List UInt8) : Except Fault PublicKey :=
  match run contents document with
  | .error f => .error (.der f)
  | .ok (algorithm, key) =>
    if algorithm.identifier ≠ Algorithm.ed25519Identifier then .error .otherAlgorithm
    else if algorithm.hasParameters then .error .badKey
    else
      match (key.bind (Octets.ofList? 32)).bind Ed25519.publicKey? with
      | none => .error .badKey
      | some k => .ok k

/-- The bytes before the key. -/
def header : List UInt8 :=
  [0x30, 0x2a, 0x30, 0x05, 0x06, 0x03, 0x2b, 0x65, 0x70, 0x03, 0x21, 0x00]

/-- The document of a public key. -/
def encode (key : Octets 32) : List UInt8 := header ++ key.toList

end HexSigner.Key.PublicDocument
