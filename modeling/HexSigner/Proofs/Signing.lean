import HexSigner.Proofs.Signer

/-!
# Honest signatures

Whoever holds a private key can sign any digest, and everybody who holds the public key will find
the signature valid.  Between the two lie a hexadecimal text and a document for each key, the
hexadecimal texts of digest and signature, and two scalars that are reduced on the way.  None of
them loses anything: a key pair that was read is its seed, and the texts of its public key and of
the signature are read back as what they were written from.

The strict policy has one more thing to look at, namely whether a point has small order.  The public
key of a seed never has, and the commitment has only if the nonce is zero.
-/

set_option autoImplicit false

namespace HexSigner.Signer

/-- **Honest signatures are valid.**  Whatever text a key pair was read from and whatever
hexadecimal text is signed, signing succeeds, and the signature is valid under the public key of the
pair: always under the standard policy, and under the strict one unless the nonce is zero. -/
theorem verify_sign {privateKey digest : String} {pair : KeyPair}
    (hkey : KeyPair.ofText privateKey = .ok pair) (hdigest : Hex.isHex digest = true) :
    ∃ message signature, Hex.decode digest = .ok message ∧
      sign privateKey digest = .ok signature ∧
      (∀ diagnostics, (verify ⟨.standard, diagnostics⟩ pair.publicKey.toText signature.toText
        digest).value = true) ∧
      (Ed25519.nonce pair.seed message ≠ 0 →
        ∀ diagnostics, (verify ⟨.strict, diagnostics⟩ pair.publicKey.toText signature.toText
          digest).value = true) := by
  obtain ⟨message, hmessage⟩ := (Hex.isHex_iff_exists_decode digest).mp hdigest
  refine ⟨message, Ed25519.sign pair.seed message, hmessage, ?_, ?_, ?_⟩
  · exact sign_eq_ok_iff.mpr ⟨pair, message, hkey, hmessage, rfl⟩
  · intro diagnostics
    exact verify_sign_of_check hmessage (Ed25519.check_sign pair.seed message)
  · intro hnonce diagnostics
    exact verify_sign_of_check hmessage (Ed25519.check_strict_sign pair.seed message hnonce)

/-- The private key of the second test vector of RFC 8032. -/
def vectorPrivateKey : String :=
  "302e020100300506032b657004220420" ++
    "4ccd089b28ff96da9db6c346ec114e0f5b8a319f35aba624da8cf6ed4fb8a6fb"

/-- The test vector is such a case, and its nonce is not zero. -/
theorem verify_sign_vector :
    ∃ pair signature, KeyPair.ofText vectorPrivateKey = .ok pair ∧ Hex.isHex "72" = true ∧
      sign vectorPrivateKey "72" = .ok signature ∧
      ∀ policy diagnostics, (verify ⟨policy, diagnostics⟩ pair.publicKey.toText signature.toText
        "72").value = true := by
  have hkey : KeyPair.ofText vectorPrivateKey = .ok ⟨Octets.ofNat 32
      0xfba6b84fedf68cda24a6ab359f318a5b0f4e11ec46c3b69dda96ff289b08cd4c⟩ := by
    decide +kernel
  have hdigest : Hex.isHex "72" = true := by decide +kernel
  have hbytes : Hex.decode "72" = .ok [0x72] := by decide +kernel
  obtain ⟨message, signature, hmessage, hsign, hstandard, hstrict⟩ := verify_sign hkey hdigest
  refine ⟨_, signature, hkey, hdigest, hsign, fun policy diagnostics ↦ ?_⟩
  rw [hbytes, Except.ok.injEq] at hmessage
  subst hmessage
  cases policy with
  | standard => exact hstandard diagnostics
  | strict => exact hstrict (by decide +kernel) diagnostics

end HexSigner.Signer
