import HexSigner.Der.Element
import HexSigner.Key.Pair

/-!
# Writing private keys through the general writer

A private key document is written element by element: the version, the algorithm, the seed as an
octet string within an octet string, and the public key in field 1 if it is to be part of the
document, which is then of version 2.  Each element is written by the general writer of DER, which
can fail, so an exported key is one that may turn out not to be written at all.

`Key.PrivateDocument.encode` puts fixed bytes in front of the seed instead.
-/

set_option autoImplicit false

namespace HexSigner

namespace Key.PrivateDocument

open Der

/-- The field with the public key, a bit string without unused bits, if there is a public key. -/
def writePublicKey : Option (Octets 32) → Except Cause (List UInt8)
  | none => .ok []
  | some key => encodeElement (.contextSpecific false publicKeyField) (0 :: key.toList)

/-- The document of a seed and, in version 2, a public key. -/
def write (seed : Octets 32) (publicKey : Option (Octets 32)) : Except Cause (List UInt8) := do
  let version ← encodeElement .integer [if publicKey.isSome then 1 else 0]
  let identifier ← encodeElement .objectIdentifier Algorithm.ed25519Identifier
  let algorithm ← encodeElement .sequence identifier
  let key ← encodeElement .octetString (0x04 :: 0x20 :: seed.toList)
  let field ← writePublicKey publicKey
  encodeElement .sequence (version ++ algorithm ++ key ++ field)

end Key.PrivateDocument

namespace KeyPair

/-- The document of the private half, without the public key, or why it cannot be written. -/
def exportDocument (p : KeyPair) : Except Failure (List UInt8) :=
  (Key.PrivateDocument.write p.seed none).mapError fun cause ↦ .invalidKey
    (.reported ("PKCS#8 encoding failed: " ++
      (Key.PrivateDocument.Fault.der ⟨cause, none⟩).message))

/-- The text of that document. -/
def exportText (p : KeyPair) : Except Failure String := do
  return Hex.encode (← p.exportDocument)

end KeyPair

end HexSigner
