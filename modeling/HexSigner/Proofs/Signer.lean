import HexSigner.Signer
import HexSigner.Proofs.Ed25519

/-!
# What the signer does with texts

Signing and verifying read their texts one after the other and then work on bytes.  When all texts
are well formed the outcome is that of the bytes, and when one is not the outcome is a failure or
`false`; so every yes of the signer comes with a key, a signature and a message.
-/

set_option autoImplicit false

namespace HexSigner.Signer

variable {settings : SignatureSettings} {policy : VerificationPolicy}
  {privateKey publicKey signature digest : String}

theorem sign_eq_ok_iff {s : Signature} :
    sign privateKey digest = .ok s ↔
      ∃ pair message, KeyPair.ofText privateKey = .ok pair ∧ Hex.decode digest = .ok message ∧
        Ed25519.sign pair.seed message = s := by
  rw [sign]
  cases KeyPair.ofText privateKey with
  | error f => simp
  | ok pair =>
    cases Hex.decode digest with
    | error f => simp
    | ok message => simp

theorem check_eq_ok_iff :
    check policy publicKey signature digest = .ok () ↔
      ∃ key s message, PublicKey.ofText publicKey = .ok key ∧
        Signature.ofText signature = .ok s ∧ Hex.decode digest = .ok message ∧
          Ed25519.check policy key message s = .ok () := by
  simp only [check, mapError_bind_eq_ok_iff, mapError_eq_ok_iff]
  constructor
  · rintro ⟨key, hkey, s, hs, message, hmessage, hcheck⟩
    exact ⟨key, s, message, hkey, hs, hmessage, hcheck⟩
  · rintro ⟨key, s, message, hkey, hs, hmessage, hcheck⟩
    exact ⟨key, hkey, s, hs, message, hmessage, hcheck⟩

theorem verify_eq_true_iff_check :
    (verify settings publicKey signature digest).value = true ↔
      check settings.verification publicKey signature digest = .ok () := by
  rw [verify]
  split
  · rename_i h
    simp [h]
  · rename_i r h
    simp [h]

/-- **Every yes comes with a key, a signature and a message**, which the policy accepts.  Whether
rejected signatures are explained makes no difference. -/
theorem verify_eq_true_iff :
    (verify settings publicKey signature digest).value = true ↔
      ∃ key s message, PublicKey.ofText publicKey = .ok key ∧
        Signature.ofText signature = .ok s ∧ Hex.decode digest = .ok message ∧
          Ed25519.check settings.verification key message s = .ok () :=
  verify_eq_true_iff_check.trans check_eq_ok_iff

/-- Of a signature that was read and a key that was read, the check of the bytes decides. -/
theorem verify_eq_true_iff_of_ofText {key : PublicKey} {s : Signature}
    (hkey : PublicKey.ofText publicKey = .ok key) (hs : Signature.ofText signature = .ok s) :
    (verify settings publicKey signature digest).value = true ↔
      ∃ message, Hex.decode digest = .ok message ∧
        Ed25519.check settings.verification key message s = .ok () := by
  rw [verify_eq_true_iff]
  simp [hkey, hs]

/-- What the check says of a signature made with a seed, verifying says of the texts. -/
theorem verify_sign_of_check {settings : SignatureSettings} {pair : KeyPair}
    {message : List UInt8} {digest : String} (hdigest : Hex.decode digest = .ok message)
    (hcheck : Ed25519.check settings.verification (Ed25519.publicKeyOfSeed pair.seed) message
      (Ed25519.sign pair.seed message) = .ok ()) :
    (verify settings pair.publicKey.toText (Ed25519.sign pair.seed message).toText
      digest).value = true := by
  have hkey := PublicKey.ofText_toText (Ed25519.publicKey?_publicKeyOfSeed pair.seed)
  rw [KeyPair.publicKey, verify_eq_true_iff_of_ofText hkey (Signature.ofText_toText _)]
  exact ⟨message, hdigest, hcheck⟩

end HexSigner.Signer
