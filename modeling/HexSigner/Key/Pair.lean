import HexSigner.Failure
import HexSigner.Hash.Blake3

/-!
# Keys and signatures as texts

The texts in which keys and signatures enter and leave the signer.  A public key is the hexadecimal
text of its document, a private key that of its own, and a signature that of its 64 bytes.

A key pair is its seed: everything else about it is computed from that, and nothing that is shown of
a key pair depends on the seed other than through the public key, except for the private key itself.
-/

set_option autoImplicit false

namespace HexSigner

/-- Length of a public key in bytes. -/
def publicKeyLength : Nat := 32

/-- Length of a seed in bytes. -/
def seedLength : Nat := 32

/-- Length of a signature in bytes. -/
def signatureLength : Nat := 64

/-! ## Public keys -/

namespace PublicKey

/-- The document of a public key. -/
def toDocument (k : PublicKey) : List UInt8 := Key.PublicDocument.encode k.bytes

/-- The text of a public key. -/
def toText (k : PublicKey) : String := Hex.encode k.toDocument

/-- A public key is shown as its text. -/
instance : ToString PublicKey := ⟨toText⟩

/-- The public key in a document. -/
def ofDocument (document : List UInt8) : Except Failure PublicKey :=
  (Key.PublicDocument.decode document).mapError fun f ↦ .invalidKey (.publicDocument f)

/-- The public key that a text stands for. -/
def ofText (text : String) : Except Failure PublicKey :=
  match Hex.decode text with
  | .error f => .error (.invalidKey (.publicNotHex f))
  | .ok document => ofDocument document

/-- A short name for a public key: the first half of a digest of it. -/
def identifier (k : PublicKey) : String :=
  Hex.encode ((Blake3.hashBlock k.bytes.toList).take 16).toList

/-- A public key in diagnostics. -/
def describe (k : PublicKey) : String := "PublicKey(" ++ k.identifier ++ ")"

end PublicKey

/-! ## Private keys -/

/-- A key pair. -/
structure KeyPair where
  seed : Octets 32
deriving DecidableEq

namespace KeyPair

/-- The public half. -/
def publicKey (p : KeyPair) : PublicKey := Ed25519.publicKeyOfSeed p.seed

/-- The document of the private half. -/
def toDocument (p : KeyPair) : List UInt8 := Key.PrivateDocument.encode p.seed

/-- The text of the private half. -/
def toText (p : KeyPair) : String := Hex.encode p.toDocument

/-- A key pair in diagnostics, which show its public half only. -/
def describe (p : KeyPair) : String :=
  "KeyPair \x7b public_key: " ++ p.publicKey.describe ++ ", .. \x7d"

/-- A key pair in diagnostics over several lines. -/
def describeLong (p : KeyPair) : String :=
  "KeyPair \x7b\n    public_key: " ++ p.publicKey.describe ++ ",\n    ..\n\x7d"

/-- The key pair whose private half a text stands for. -/
def ofText (text : String) : Except Failure KeyPair :=
  match Hex.decode text with
  | .error _ => .error (.invalidKey .privateNotHex)
  | .ok document =>
    match Key.PrivateDocument.decode document with
    | .error f => .error (.invalidKey (.privateDocument f))
    | .ok seed => .ok ⟨seed⟩

end KeyPair

/-! ## Signatures -/

namespace Signature

/-- The text of a signature. -/
def toText (s : Signature) : String := Hex.encode s.bytes.toList

/-- A signature is shown as its text. -/
instance : ToString Signature := ⟨toText⟩

/-- A signature in diagnostics: its first four bytes. -/
def describe (s : Signature) : String :=
  "Signature(" ++ Hex.encode (s.bytes.take 4).toList ++ "...)"

/-- The signature with the given bytes. -/
def ofBytes (bytes : List UInt8) : Except Failure Signature :=
  match Octets.ofList? 64 bytes with
  | none => .error (.invalidInput (.signatureLength bytes.length))
  | some o => .ok ⟨o⟩

/-- The signature that a text stands for. -/
def ofText (text : String) : Except Failure Signature :=
  match Hex.decode text with
  | .error f => .error f.toFailure
  | .ok bytes => ofBytes bytes

end Signature

end HexSigner
