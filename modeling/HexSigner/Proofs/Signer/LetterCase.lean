import HexSigner.Proofs.Failure
import HexSigner.Proofs.Key.Export

/-!
# Letter case never matters

Whoever copies a key or a signature may find its digits in either case, and every operation takes
them as they are.  That texts which differ in letter case alone stand for the same bytes is a matter
of the codec (`Hex.decode_eq_ok_iff`).  What is left to say is what happens to texts that stand for
nothing: they are refused in both forms, and by the same part of the operation, so the kind of the
failure is the same (`SameOutcome`).

The wording need not be.  A text that is not hexadecimal is refused with a character quoted, and
that may be the letter by which the two forms differ.  Private keys are never quoted, so for them
the whole failure is the same.
-/

set_option autoImplicit false

namespace HexSigner

/-! ## The same outcome -/

/-- The kinds of failures. -/
inductive Failure.Kind where
  | keyGeneration
  | invalidKey
  | invalidInput
deriving DecidableEq, Repr

/-- The kind of a failure. -/
def Failure.kind : Failure → Kind
  | .keyGeneration _ => .keyGeneration
  | .invalidKey _ => .invalidKey
  | .invalidInput _ => .invalidInput

/-- Two outcomes are the same up to the wording of failures: either both are the same value, or both
are failures of the same kind. -/
inductive SameOutcome {α : Type} : Except Failure α → Except Failure α → Prop
  | ok (a : α) : SameOutcome (.ok a) (.ok a)
  | error {f f' : Failure} (h : f.kind = f'.kind) : SameOutcome (.error f) (.error f')

namespace SameOutcome

variable {α : Type} {x y : Except Failure α}

theorem refl (x : Except Failure α) : SameOutcome x x := by
  cases x with
  | error f => exact .error rfl
  | ok a => exact .ok a

theorem eq_ok_iff (h : SameOutcome x y) {a : α} : x = .ok a ↔ y = .ok a := by
  cases h with
  | error h => simp
  | ok b => exact Iff.rfl

end SameOutcome

/-! ## Texts that differ in letter case -/

variable {text text' : String}

/-- Texts differ in letter case alone if their characters do. -/
theorem Hex.toLower_eq_toLower_iff :
    text.toLower = text'.toLower ↔
      text.toList.map Char.toLower = text'.toList.map Char.toLower := by
  rw [← String.toList_inj, toList_toLower, toList_toLower]

/-- Two texts that differ in letter case either stand for the same bytes or for none. -/
theorem Hex.decode_congr (h : text.toLower = text'.toLower) :
    (∃ bytes, decode text = .ok bytes ∧ decode text' = .ok bytes) ∨
      ∃ f f', decode text = .error f ∧ decode text' = .error f' := by
  have hiff : ∀ bytes, decode text = .ok bytes ↔ decode text' = .ok bytes := fun bytes ↦ by
    rw [decode_eq_ok_iff, decode_eq_ok_iff, h]
  cases htext : decode text with
  | ok bytes => exact .inl ⟨bytes, rfl, (hiff bytes).mp htext⟩
  | error f =>
    cases htext' : decode text' with
    | ok bytes => rw [(hiff bytes).mpr htext'] at htext; cases htext
    | error f' => exact .inr ⟨f, f', rfl, rfl⟩

/-- A private key is read, or refused, with nothing said about its digits. -/
theorem KeyPair.ofText_congr (h : text.toLower = text'.toLower) : ofText text = ofText text' := by
  rcases Hex.decode_congr h with ⟨bytes, htext, htext'⟩ | ⟨f, f', htext, htext'⟩
  · rw [ofText, ofText, htext, htext']
  · rw [ofText, ofText, htext, htext']

/-- Reading a text and going on with its bytes has the same outcome for both texts, if the failures
of reading are of one kind. -/
theorem sameOutcome_of_decode {α : Type} {refuse : Hex.Fault → Failure} {k : Failure.Kind}
    (read : List UInt8 → Except Failure α) (hkind : ∀ f, (refuse f).kind = k)
    (h : text.toLower = text'.toLower) :
    SameOutcome
      (match Hex.decode text with
        | .error f => .error (refuse f)
        | .ok bytes => read bytes)
      (match Hex.decode text' with
        | .error f => .error (refuse f)
        | .ok bytes => read bytes) := by
  rcases Hex.decode_congr h with ⟨bytes, htext, htext'⟩ | ⟨f, f', htext, htext'⟩
  · rw [htext, htext']
    exact .refl _
  · rw [htext, htext']
    exact .error ((hkind f).trans (hkind f').symm)

theorem PublicKey.ofText_congr (h : text.toLower = text'.toLower) :
    SameOutcome (ofText text) (ofText text') :=
  sameOutcome_of_decode ofDocument (fun _ ↦ rfl) h

theorem Signature.ofText_congr (h : text.toLower = text'.toLower) :
    SameOutcome (ofText text) (ofText text') :=
  sameOutcome_of_decode ofBytes (fun _ ↦ rfl) h

namespace Signer

variable {privateKey privateKey' publicKey publicKey' signature signature' digest digest' : String}

theorem sign_congr (hkey : privateKey.toLower = privateKey'.toLower)
    (hdigest : digest.toLower = digest'.toLower) :
    SameOutcome (sign privateKey digest) (sign privateKey' digest') := by
  rw [sign, sign, KeyPair.ofText_congr hkey]
  cases KeyPair.ofText privateKey' with
  | error f => exact .error rfl
  | ok pair =>
    exact sameOutcome_of_decode (fun message ↦ .ok (Ed25519.sign pair.seed message))
      (fun _ ↦ rfl) hdigest

theorem verify_congr (settings : SignatureSettings) (hkey : publicKey.toLower = publicKey'.toLower)
    (hsignature : signature.toLower = signature'.toLower)
    (hdigest : digest.toLower = digest'.toLower) :
    (verify settings publicKey signature digest).value =
      (verify settings publicKey' signature' digest').value := by
  rw [Bool.eq_iff_iff, verify_eq_true_iff, verify_eq_true_iff]
  simp only [(PublicKey.ofText_congr hkey).eq_ok_iff, (Signature.ofText_congr hsignature).eq_ok_iff,
    Hex.decode_eq_ok_iff, hdigest]

theorem validatePublicKey_congr (h : publicKey.toLower = publicKey'.toLower) :
    validatePublicKey publicKey = validatePublicKey publicKey' := by
  rw [Bool.eq_iff_iff, validatePublicKey_iff, validatePublicKey_iff]
  exact exists_congr fun k ↦ (PublicKey.ofText_congr h).eq_ok_iff

/-- **Letter case never matters.**  Take any texts, well formed or not, and write each of them in
another letter case.

* Verifying gives the same answer under either policy, and so does validating a public key.
* Signing, and reading public keys and signatures, succeeds with the same value in both cases or
  fails in both, with failures of the same kind.
* If signing fails because of the private key, the failure is the very same one. -/
theorem letterCase_never_matters (hprivate : privateKey.toLower = privateKey'.toLower)
    (hpublic : publicKey.toLower = publicKey'.toLower)
    (hsignature : signature.toLower = signature'.toLower)
    (hdigest : digest.toLower = digest'.toLower) :
    (∀ settings, (verify settings publicKey signature digest).value =
      (verify settings publicKey' signature' digest').value) ∧
    validatePublicKey publicKey = validatePublicKey publicKey' ∧
    SameOutcome (sign privateKey digest) (sign privateKey' digest') ∧
    (∀ fault, sign privateKey digest = .error (.invalidKey fault) ↔
      sign privateKey' digest' = .error (.invalidKey fault)) ∧
    SameOutcome (parsePublicKey publicKey) (parsePublicKey publicKey') ∧
    SameOutcome (PublicKey.ofText publicKey) (PublicKey.ofText publicKey') ∧
    SameOutcome (Signature.ofText signature) (Signature.ofText signature') := by
  have hread := PublicKey.ofText_congr hpublic
  refine ⟨fun settings ↦ verify_congr settings hpublic hsignature hdigest,
    validatePublicKey_congr hpublic, sign_congr hprivate hdigest, fun fault ↦ ?_, hread, hread,
    Signature.ofText_congr hsignature⟩
  rw [sign_eq_invalidKey_iff, sign_eq_invalidKey_iff, KeyPair.ofText_congr hprivate]

/-- A digest with a letter that is no digit: the kind of the failure is the same for both forms of
the letter, and the failure is not. -/
theorem letterCase_never_matters_wording :
    let text := (KeyPair.mk vectorSeed).toText
    vectorExportUpper.toLower = text.toLower ∧ "0g".toLower = "0G".toLower ∧
    SameOutcome (sign vectorExportUpper "0g") (sign text "0G") ∧
    sign vectorExportUpper "0g" = .error (.invalidInput (.notHex (.badDigit 0x67 1))) ∧
    sign text "0G" = .error (.invalidInput (.notHex (.badDigit 0x47 1))) := by
  intro text
  have hkey : vectorExportUpper.toLower = text.toLower :=
    Hex.toLower_eq_toLower_iff.mpr (by decide +kernel)
  have hdigest : "0g".toLower = "0G".toLower := Hex.toLower_eq_toLower_iff.mpr (by decide +kernel)
  have hempty : "".toLower = "".toLower := rfl
  obtain ⟨-, -, hsign, -⟩ := letterCase_never_matters hkey hempty hempty hdigest
  exact ⟨hkey, hdigest, hsign, by decide +kernel, by decide +kernel⟩

end Signer

end HexSigner
