import HexSigner.Ed25519
import HexSigner.Key.Algorithm

/-!
# Private key documents

A private key travels as a DER document that holds a version, the algorithm, the seed as an octet
string within an octet string, and possibly more fields.  In version 1 there is no public key; in
version 2 there is one, in field 1, and it has to be the public key of the seed.  Further fields are
skipped.

Writing uses version 1 and puts a fixed header of sixteen bytes in front of the seed.  Reading goes
through the general DER reader and accepts both versions.
-/

set_option autoImplicit false

namespace HexSigner.Key.PrivateDocument

open Der Decoder

/-- What keeps bytes from being a private key document. -/
inductive Fault where
  /-- The bytes are not the DER of such a document. -/
  | der (fault : Der.Fault)
  /-- The key is for another algorithm. -/
  | otherAlgorithm
  /-- The algorithm has parameters. -/
  | parametersPresent
  /-- The seed is not 32 bytes, or the public key is not that of the seed. -/
  | badKey
deriving DecidableEq, Repr

/-- The wording of a fault. -/
def Fault.message : Fault → String
  | .der f => "PKCS#8 ASN.1 error: " ++ f.message
  | .otherAlgorithm =>
    "public key error: unknown/unsupported algorithm OID: " ++ Algorithm.ed25519Name
  | .parametersPresent => "PKCS#8 algorithm parameters malformed"
  | .badKey => "PKCS#8 cryptographic key data malformed"

/-- What a private key document holds. -/
structure Contents where
  algorithm : Algorithm
  /-- The octet string with the encoded seed. -/
  key : List UInt8
  /-- The public key, in version 2. -/
  publicKey : Option (List UInt8)
deriving DecidableEq, Repr

/-- Whether a document has version 2; otherwise it has version 1. -/
def isVersion2 : Decoder Bool := do
  match ← smallInteger with
  | 0 => return false
  | 1 => return true
  | _ => fail (.badValue .integer)

/-- The field with the public key. -/
def publicKeyField : Nat := 1

/-- The public key, if its field is there. -/
def publicKey : Decoder (Option (List UInt8)) := do
  match ← bitStringField publicKeyField with
  | none => return none
  | some none => fail (.badValue .bitString)
  | some (some bytes) => return some bytes

/-- The contents of a private key document. -/
def contents : Decoder Contents :=
  sequence do
    let version2 ← isVersion2
    let algorithm ← located Algorithm.decoder
    let key ← octetString
    let publicKey ← publicKey
    if version2 ≠ publicKey.isSome then
      failHere (.badValue (.contextSpecific true publicKeyField))
    else
      let fuel ← fun r ↦ .ok (r.bytes.length, r)
      fields fuel
      return ⟨algorithm, key, publicKey⟩

/-- The seed in the octet string within the octet string. -/
def seed? : List UInt8 → Option (Octets 32)
  | 0x04 :: 0x20 :: seed => Octets.ofList? 32 seed
  | _ => none

/-- The seed in a document. -/
def decode (document : List UInt8) : Except Fault (Octets 32) :=
  match run contents document with
  | .error f => .error (.der f)
  | .ok c =>
    if c.algorithm.identifier ≠ Algorithm.ed25519Identifier then .error .otherAlgorithm
    else if c.algorithm.hasParameters then .error .parametersPresent
    else
      match seed? c.key with
      | none => .error .badKey
      | some seed =>
        match c.publicKey with
        | none => .ok seed
        | some bytes =>
          if bytes = (Ed25519.publicKeyOfSeed seed).bytes.toList then .ok seed
          else .error .badKey

/-- The bytes before the seed. -/
def header : List UInt8 :=
  [0x30, 0x2e, 0x02, 0x01, 0x00, 0x30, 0x05, 0x06, 0x03, 0x2b, 0x65, 0x70, 0x04, 0x22, 0x04, 0x20]

/-- The document of a seed, in version 1. -/
def encode (seed : Octets 32) : List UInt8 := header ++ seed.toList

end HexSigner.Key.PrivateDocument
