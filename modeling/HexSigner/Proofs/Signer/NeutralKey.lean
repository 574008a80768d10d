import HexSigner.Proofs.Failure
import HexSigner.Proofs.Verification

/-!
# Keys that are the neutral point

The neutral point is read as a public key like any other point, and validating says that it is one.
But a multiple of the neutral point is the neutral point, so the verification equation
`[S] B = R + [k] A` loses its last term and with it everything that it says about the key and the
digest.  Under the standard policy whoever picks a response `S` has the commitment that goes with it,
`R = [S] B`, and these are all the valid signatures (`check_standard_neutral_iff`).  Under the
strict policy such a key has small order and no signature is valid.
-/

set_option autoImplicit false

namespace HexSigner.Curve.Point

/-- **What is read as the neutral point**: bytes whose `y` is 1 modulo the prime.  There is no sign
on `x = 0`, so the highest bit of the bytes is free. -/
theorem decode?_eq_identity_iff {bytes : Octets 32} :
    decode? bytes = some identity ↔ bytes.toNat % 2 ^ 255 % prime = 1 := by
  have hone : identity.y.val = 1 := by decide +kernel
  rw [decode?_eq_some_iff]
  constructor
  · intro h
    rw [← h.y, hone]
  · intro h
    exact ⟨Denotes.identity.onCurve, hone.trans h.symm, Or.inl rfl⟩

end HexSigner.Curve.Point

namespace HexSigner.Ed25519

open Curve

variable {key : PublicKey} {message : List UInt8} {s : Signature}

/-- The signature that has the given response and whose commitment is that multiple of the base
point.  No private key is needed to make it. -/
def forged (response : Nat) : Signature :=
  .ofParts (Point.base.times response).encode (Octets.ofNat 32 response)

/-- **Under the standard policy the valid signatures of the neutral point are the forged ones**, for
every message. -/
theorem check_standard_neutral_iff (h : key.point = Point.identity) :
    check .standard key message s = .ok () ↔ ∃ S < groupOrder, s = forged S := by
  have hzero : key.point.Denotes 0 := h ▸ Point.Denotes.identity
  have hmultiple := fun n ↦ denotes_base.times n
  rw [check_standard_iff hzero, smul_zero, sub_zero]
  constructor
  · rintro ⟨hlt, r, hr, hden⟩
    refine ⟨s.response.toNat, hlt, ?_⟩
    rw [forged, ← (hden.eq_iff (hmultiple _)).mpr rfl, ← hr.eq_encode, Octets.ofNat_toNat,
      Signature.ofParts_commitment_response]
  · rintro ⟨S, hlt, rfl⟩
    have hfits : (Octets.ofNat 32 S).toNat = S :=
      Octets.toNat_ofNat_of_lt (hlt.trans (by decide))
    rw [forged, Signature.commitment_ofParts, Signature.response_ofParts, hfits]
    exact ⟨hlt, _, Rfc8032.decodes_encode (hmultiple S).onCurve, hmultiple S⟩

/-- Under the strict policy the neutral point has no valid signatures. -/
theorem check_strict_neutral (h : key.point = Point.identity) :
    check .strict key message s ≠ .ok () := by
  intro hcheck
  obtain ⟨-, -, -, -, hlarge⟩ := check_strict_iff.mp hcheck
  have hzero : key.point.Denotes 0 := h ▸ Point.Denotes.identity
  rw [hzero.hasSmallOrder_iff.mpr (smul_zero 8)] at hlarge
  cases hlarge

end HexSigner.Ed25519

namespace HexSigner.Signer

open Curve Ed25519

/-- A text is that of a key document, and the key in it is the neutral point: its `y` is 1. -/
def KeyIsNeutral (publicKey : String) : Prop :=
  ∃ bytes : Octets 32, Hex.decode publicKey = .ok (Key.PublicDocument.header ++ bytes.toList) ∧
    bytes.toNat % 2 ^ 255 % prime = 1

/-- The text of the neutral point as the signer writes it. -/
def neutralKey : String :=
  "302a300506032b6570032100" ++ "0100000000000000000000000000000000000000000000000000000000000000"

theorem keyIsNeutral_iff {publicKey : String} :
    KeyIsNeutral publicKey ↔
      ∃ key, PublicKey.ofText publicKey = .ok key ∧ key.point = Point.identity := by
  constructor
  · rintro ⟨bytes, hbytes, hy⟩
    exact ⟨⟨bytes, Point.identity⟩, PublicKey.ofText_eq_ok_iff.mpr
      ⟨hbytes, publicKey?_eq_some_iff.mpr (Point.decode?_eq_identity_iff.mpr hy)⟩, rfl⟩
  · rintro ⟨key, hkey, hneutral⟩
    exact ⟨key.bytes, (PublicKey.ofText_eq_ok_iff.mp hkey).1, Point.decode?_eq_identity_iff.mp
      (hneutral ▸ PublicKey.decode?_of_ofText hkey)⟩

/-- **A key that is the neutral point has every forged signature, and no strict one.**

* It passes for a key, in every session and whatever the policy there.
* Under the standard policy the valid signatures of every digest are the forged ones, one for each
  response below the order of the base point.
* Under the strict policy it has no valid signature at all. -/
theorem verify_neutralKey {publicKey : String} (h : KeyIsNeutral publicKey) :
    validatePublicKey publicKey = true ∧
    (∀ s : Session.State, Session.step s (.validate (.text publicKey)) = (s, .valid true, [])) ∧
    (∀ (diagnostics : Bool) (signature digest : String),
      (verify ⟨.standard, diagnostics⟩ publicKey signature digest).value = true ↔
        Hex.isHex digest = true ∧
          ∃ S < groupOrder, Signature.ofText signature = .ok (forged S)) ∧
    ∀ (diagnostics : Bool) (signature digest : String),
      (verify ⟨.strict, diagnostics⟩ publicKey signature digest).value = false := by
  obtain ⟨key, hkey, hneutral⟩ := keyIsNeutral_iff.mp h
  have hvalid : validatePublicKey publicKey = true := validatePublicKey_iff.mpr ⟨key, hkey⟩
  refine ⟨hvalid, fun s ↦ ?_, fun diagnostics signature digest ↦ ?_,
    fun diagnostics signature digest ↦ ?_⟩
  · rw [← hvalid]
    rfl
  · rw [verify_eq_true_iff, Hex.isHex_iff_exists_decode]
    constructor
    · rintro ⟨key', s, message, hkey', hs, hmessage, hcheck⟩
      rw [hkey, Except.ok.injEq] at hkey'
      obtain ⟨S, hlt, rfl⟩ := (check_standard_neutral_iff (hkey' ▸ hneutral)).mp hcheck
      exact ⟨⟨message, hmessage⟩, S, hlt, hs⟩
    · rintro ⟨⟨message, hmessage⟩, S, hlt, hs⟩
      exact ⟨key, forged S, message, hkey, hs, hmessage,
        (check_standard_neutral_iff hneutral).mpr ⟨S, hlt, rfl⟩⟩
  · rw [← Bool.not_eq_true, verify_eq_true_iff]
    rintro ⟨key', s, message, hkey', -, -, hcheck⟩
    rw [hkey, Except.ok.injEq] at hkey'
    exact check_strict_neutral (hkey' ▸ hneutral) hcheck

/-- The text of the neutral point is such a key, and the signature with the response 2 is valid for
it by one policy and not by the other. -/
theorem verify_neutralKey_two :
    KeyIsNeutral neutralKey ∧ validatePublicKey neutralKey = true ∧
      (verify ⟨.standard, true⟩ neutralKey (forged 2).toText "DeadBeef").value = true ∧
      (verify ⟨.strict, true⟩ neutralKey (forged 2).toText "DeadBeef").value = false := by
  have hneutral : KeyIsNeutral neutralKey := ⟨Octets.ofNat 32 1, by decide +kernel⟩
  obtain ⟨hvalid, -, hstandard, hstrict⟩ := verify_neutralKey hneutral
  exact ⟨hneutral, hvalid, (hstandard true _ _).mpr
    ⟨by decide +kernel, 2, by decide +kernel, Signature.ofText_toText (forged 2)⟩, hstrict true _ _⟩

end HexSigner.Signer
