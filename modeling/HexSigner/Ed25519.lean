import HexSigner.Curve.Extended
import HexSigner.Hash.Sha512

/-!
# Ed25519

Signing and verifying over bytes.  A seed of 32 bytes determines a secret scalar and a secret
prefix; the public key is the multiple of the base point by that scalar.  A signature is a
commitment `R`, the encoding of a point, followed by a response `S`, a scalar.

Two policies say which signatures are accepted.

* *Standard*: `S` is reduced, and `[S] B - [k] A` encodes to `R` byte for byte, where `k` is the
  challenge.
* *Strict*: moreover `R` decodes, and neither `R` nor the public key `A` has small order.

The challenge hashes the key and the commitment in the form in which they were given, so it depends
on the bytes and not only on the points.
-/

set_option autoImplicit false

namespace HexSigner

/-- Which signatures are accepted. -/
inductive VerificationPolicy where
  | standard
  | strict
deriving DecidableEq, Repr

/-- A public key: 32 bytes and the point that they encode.  Two keys are the same key if their bytes
are. -/
structure PublicKey where
  bytes : Octets 32
  point : Curve.Point
deriving DecidableEq

/-- A signature: the commitment in the first half, the response in the second. -/
structure Signature where
  bytes : Octets 64
deriving DecidableEq

namespace Signature

/-- The encoded point `R`. -/
def commitment (s : Signature) : Octets 32 := s.bytes.take 32

/-- The encoded scalar `S`. -/
def response (s : Signature) : Octets 32 := s.bytes.drop 32

/-- The signature with a given commitment and a given response. -/
def ofParts (commitment response : Octets 32) : Signature := ⟨commitment.append response⟩

end Signature

namespace Ed25519

open Curve

/-- The public key that 32 bytes stand for, if they encode a point. -/
def publicKey? (bytes : Octets 32) : Option PublicKey :=
  (Point.decode? bytes).map (⟨bytes, ·⟩)

/-! ## Signing -/

/-- The secret scalar of a seed. -/
def secretScalar (seed : Octets 32) : Nat :=
  clamp ((sha512 seed.toList).take 32).toNat % groupOrder

/-- The secret prefix that makes the nonces of a seed unpredictable. -/
def noncePrefix (seed : Octets 32) : Octets 32 := (sha512 seed.toList).drop 32

/-- The public key of a seed. -/
def publicKeyOfSeed (seed : Octets 32) : PublicKey :=
  let point := Point.base.multiple (secretScalar seed)
  ⟨point.encode, point⟩

/-- The nonce with which a seed signs a message. -/
def nonce (seed : Octets 32) (message : List UInt8) : Nat :=
  (sha512 ((noncePrefix seed).toList ++ message)).toNat % groupOrder

/-- The challenge that ties a commitment to a key and a message. -/
def challenge (commitment key : Octets 32) (message : List UInt8) : Nat :=
  (sha512 (commitment.toList ++ key.toList ++ message)).toNat % groupOrder

/-- The signature of a message under a seed. -/
def sign (seed : Octets 32) (message : List UInt8) : Signature :=
  let r := nonce seed message
  let commitment := (Point.base.multiple r).encode
  let k := challenge commitment (publicKeyOfSeed seed).bytes message
  .ofParts commitment (Octets.ofNat 32 ((r + k * secretScalar seed) % groupOrder))

/-! ## Verifying -/

/-- Why a signature is not accepted. -/
inductive Rejection where
  /-- The response is not below the order of the base point. -/
  | responseNotReduced
  /-- The verification equation fails, or the policy forbids the points. -/
  | equationFails
deriving DecidableEq, Repr

/-- The wording of a rejection. -/
def Rejection.message : Rejection → String
  | .responseNotReduced => "signature error: Cannot use scalar with high-bit set"
  | .equationFails => "signature error: Verification equation was not satisfied"

/-- The commitment that makes a response valid: the encoding of `[S] B - [k] A`. -/
def expectedCommitment (key : PublicKey) (k response : Nat) : Octets 32 :=
  (Extended.add (.multiple k key.point.neg) (.multiple response Point.base)).toPoint.encode

/-- Whether a policy accepts a key and a commitment as points, whatever was signed. -/
def pointsAllowed (policy : VerificationPolicy) (key : PublicKey) (commitment : Octets 32) : Bool :=
  match policy with
  | .standard => true
  | .strict =>
    match Point.decode? commitment with
    | none => false
    | some r => !r.hasSmallOrder && !key.point.hasSmallOrder

/-- Checks a signature of a message. -/
def check (policy : VerificationPolicy) (key : PublicKey) (message : List UInt8)
    (signature : Signature) : Except Rejection Unit :=
  let response := signature.response.toNat
  if groupOrder ≤ response then .error .responseNotReduced
  else if !pointsAllowed policy key signature.commitment then .error .equationFails
  else
    let k := challenge signature.commitment key.bytes message
    if expectedCommitment key k response = signature.commitment then .ok ()
    else .error .equationFails

end Ed25519

end HexSigner
