import HexSigner.Proofs.Failure
import HexSigner.Proofs.Key.PublicText

/-!
# Private keys are not public keys

Both kinds of key travel as hexadecimal text of a DER sequence, and nothing around the text says
which kind it is.  The first byte of the contents does: a private key document begins with its
version, an integer, and a public key document begins with its algorithm, another sequence.  Since a
document is a sequence in one way only (`ElementForm.contents_unique`), no document is of both kinds
(`PrivateDocument.not_seedForm_encode`), however long its lengths are written and whatever fields
follow.

So a key in the place of one of the other kind is refused by every operation, with the failure that
says that a key is at fault (`key_in_wrong_place`).
-/

set_option autoImplicit false

namespace HexSigner

open Der

/-- The contents of a public key document begin with its algorithm. -/
theorem Key.PublicDocument.elementForm_encode (key : Octets 32) :
    ∃ back, ElementForm .sequence (Algorithm.ed25519Bytes ++ back) (encode key) := by
  obtain ⟨_, helement, front, back, rfl, hfront, -⟩ := (form_iff key).mpr rfl
  rw [Algorithm.form_ed25519_iff] at hfront
  exact ⟨back, hfront ▸ helement⟩

/-- **No document is of both kinds.** -/
theorem Key.PrivateDocument.not_seedForm_encode (key seed : Octets 32) :
    ¬SeedForm (PublicDocument.encode key) seed := by
  rintro ⟨publicKey, rest, hprivate, -⟩
  obtain ⟨back, hpublic⟩ := PublicDocument.elementForm_encode key
  have hcontents := hprivate.contents_unique hpublic
  -- the tag of the version against the tag of the algorithm
  have hhead := congrArg List.head? hcontents
  exact absurd hhead (by simp [contentsHeader, Algorithm.ed25519Bytes])

/-- **No text is a key of both kinds.** -/
theorem not_isPrivateKey_of_ofText {text : String} {k : PublicKey}
    (h : PublicKey.ofText text = .ok k) : ¬IsPrivateKey text := by
  rintro ⟨document, seed, hdocument, hform⟩
  rw [(PublicKey.ofText_eq_ok_iff.mp h).1, Except.ok.injEq] at hdocument
  subst hdocument
  exact Key.PrivateDocument.not_seedForm_encode k.bytes seed hform

namespace Signer

/-- What is no public key is refused as one by every operation that takes a public key. -/
theorem refused_of_forall_ofText_ne {text : String} (h : ∀ k, PublicKey.ofText text ≠ .ok k) :
    validatePublicKey text = false ∧ (∃ fault, parsePublicKey text = .error (.invalidKey fault)) ∧
      ∀ settings signature digest, (verify settings text signature digest).value = false := by
  refine ⟨?_, ?_, fun settings signature digest ↦ ?_⟩
  · rw [← Bool.not_eq_true, validatePublicKey_iff]
    rintro ⟨k, hk⟩
    exact h k hk
  · cases hparse : parsePublicKey text with
    | error f =>
      obtain ⟨fault, rfl⟩ := exists_fault_of_parsePublicKey hparse
      exact ⟨fault, rfl⟩
    | ok k => exact absurd hparse (h k)
  · rw [← Bool.not_eq_true, verify_eq_true_iff]
    rintro ⟨k, -, -, hk, -⟩
    exact h k hk

/-- **A key in the place of one of the other kind is refused.**  A text that signing accepts as a
private key is not valid as a public key, cannot be parsed as one, and verifies nothing.  A text
that can be parsed as a public key signs nothing.  In each case the failure says that the key is at
fault. -/
theorem key_in_wrong_place (text : String) :
    (AcceptsKey text →
      validatePublicKey text = false ∧
      (∃ fault, parsePublicKey text = .error (.invalidKey fault)) ∧
      ∀ settings signature digest, (verify settings text signature digest).value = false) ∧
    ((∃ k, parsePublicKey text = .ok k) →
      ∀ digest, ∃ fault, sign text digest = .error (.invalidKey fault)) := by
  constructor
  · intro haccepts
    refine refused_of_forall_ofText_ne fun k hk ↦ ?_
    exact not_isPrivateKey_of_ofText hk (isPrivateKey_iff.mpr (acceptsKey_iff.mp haccepts))
  · rintro ⟨k, hk⟩ digest
    obtain ⟨fault, hfault⟩ := exists_fault_iff.mpr (not_isPrivateKey_of_ofText hk)
    exact ⟨fault, sign_eq_invalidKey_iff.mpr hfault⟩

/-- A document in version 2 that holds the very public key, and the document of that public key. -/
theorem key_in_wrong_place_vector :
    let privateKey := Hex.encode vectorDocumentWithFields
    let publicKey := (KeyPair.mk vectorSeed).publicKey.toText
    AcceptsKey privateKey ∧ validatePublicKey privateKey = false ∧
      (∃ k, parsePublicKey publicKey = .ok k) ∧
      ∃ fault, sign publicKey "" = .error (.invalidKey fault) := by
  intro privateKey publicKey
  have hdecode : Key.PrivateDocument.decode vectorDocumentWithFields = .ok vectorSeed := by
    decide +kernel
  have haccepts : AcceptsKey privateKey := acceptsKey_iff.mpr ⟨_, KeyPair.ofText_encode hdecode⟩
  have hparse : ∃ k, parsePublicKey publicKey = .ok k :=
    ⟨_, PublicKey.ofText_toText (Ed25519.publicKey?_publicKeyOfSeed vectorSeed)⟩
  exact ⟨haccepts, ((key_in_wrong_place privateKey).1 haccepts).1, hparse,
    (key_in_wrong_place publicKey).2 hparse ""⟩

end Signer

end HexSigner
