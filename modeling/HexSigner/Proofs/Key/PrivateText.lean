import HexSigner.Proofs.Key.PrivateDocument
import HexSigner.Proofs.Signer

/-!
# The texts of private keys

Signing reads its first text as a private key and never looks at that text again, so all that can
matter about it is the seed.  This file says which texts are private keys and where in the text the
seed is: what signing accepts is the hexadecimal form of a private key document
(`KeyPair.ofText_eq_ok_iff`), and its form leaves no room for another reading
(`form_of_acceptsKey`).

That a text is accepted as a private key is a matter of the failures of signing.  Signing may still
fail on account of the digest, but then it does not say that the key is at fault.
-/

set_option autoImplicit false

namespace HexSigner

open Der

/-! ## Reading private keys -/

namespace KeyPair

variable {text : String}

/-- **The texts that are private keys.** -/
theorem ofText_eq_ok_iff {pair : KeyPair} :
    ofText text = .ok pair ↔
      ∃ document, Hex.decode text = .ok document ∧
        Key.PrivateDocument.SeedForm document pair.seed := by
  simp only [← Key.PrivateDocument.decode_eq_ok_iff]
  rw [ofText]
  cases Hex.decode text with
  | error f => simp
  | ok document =>
    cases hdecode : Key.PrivateDocument.decode document with
    | error f => simp [hdecode]
    | ok seed =>
      cases pair
      simp [hdecode]

theorem ofText_encode {document : List UInt8} {seed : Octets 32}
    (h : Key.PrivateDocument.decode document = .ok seed) :
    ofText (Hex.encode document) = .ok ⟨seed⟩ :=
  ofText_eq_ok_iff.mpr
    ⟨document, Hex.decode_encode document, Key.PrivateDocument.decode_eq_ok_iff.mp h⟩

/-- A text that is no private key is refused as a key. -/
theorem exists_fault_of_ofText {f : Failure} (h : ofText text = .error f) :
    ∃ fault, f = .invalidKey fault := by
  rw [ofText] at h
  split at h
  · cases h
    exact ⟨_, rfl⟩
  · split at h
    · cases h
      exact ⟨_, rfl⟩
    · cases h

end KeyPair

namespace Signer

/-- Signing accepts a text as a private key: there is a digest for which it does not say that the
key is at fault. -/
def AcceptsKey (privateKey : String) : Prop :=
  ∃ digest, ∀ fault, sign privateKey digest ≠ .error (.invalidKey fault)

theorem acceptsKey_iff {privateKey : String} :
    AcceptsKey privateKey ↔ ∃ pair, KeyPair.ofText privateKey = .ok pair := by
  constructor
  · rintro ⟨digest, h⟩
    cases hkey : KeyPair.ofText privateKey with
    | error f =>
      obtain ⟨fault, rfl⟩ := KeyPair.exists_fault_of_ofText hkey
      exact absurd (by rw [sign, hkey]) (h fault)
    | ok pair => exact ⟨pair, rfl⟩
  · rintro ⟨pair, hkey⟩
    refine ⟨"", fun fault h ↦ ?_⟩
    rw [sign, hkey] at h
    cases h

/-- The seed that a text holds, if it is a private key: 32 bytes behind the first 14 bytes of the
contents of the document. -/
def HoldsSeed (privateKey : String) (seed : Octets 32) : Prop :=
  ∃ document contents, Hex.decode privateKey = .ok document ∧
    ElementForm .sequence contents document ∧ (contents.drop 14).take 32 = seed.toList

/-- The seed that is read is the seed that the text holds. -/
theorem holdsSeed_iff {privateKey : String} {pair : KeyPair} {seed : Octets 32}
    (h : KeyPair.ofText privateKey = .ok pair) :
    HoldsSeed privateKey seed ↔ seed = pair.seed := by
  obtain ⟨document, hdocument, publicKey, rest, hform, -⟩ := KeyPair.ofText_eq_ok_iff.mp h
  have hseed : ∀ contents, ElementForm .sequence contents document →
      (contents.drop 14).take 32 = pair.seed.toList := by
    intro contents hcontents
    rw [hcontents.contents_unique hform]
    exact Key.PrivateDocument.take_drop_contents _ pair.seed rest
  constructor
  · rintro ⟨document', contents, hdocument', hcontents, htake⟩
    rw [hdocument, Except.ok.injEq] at hdocument'
    subst hdocument'
    rw [hseed contents hcontents] at htake
    exact Octets.ext htake.symm
  · rintro rfl
    exact ⟨document, _, hdocument, hform, hseed _ hform⟩

/-- Signing with a private key that was read is signing with its seed. -/
theorem sign_eq_of_ofText {privateKey : String} {pair : KeyPair}
    (h : KeyPair.ofText privateKey = .ok pair) (digest : String) :
    sign privateKey digest =
      ((Hex.decode digest).mapError Hex.Fault.toFailure).map (Ed25519.sign pair.seed) := by
  rw [sign, h]
  cases Hex.decode digest <;> rfl

/-! ## What is accepted -/

/-- The fields behind the seed fit the byte of the version.  Where that is one, the fields numbered
0 are followed by the public key of the seed, and where it is zero, by no public key at all. -/
def FieldsFit (version : UInt8) (seed : Octets 32) (fields : List UInt8) : Prop :=
  version = 0 ∧ (∃ skipped back, fields = skipped ++ back ∧ Many (FieldForm 0) skipped ∧
    ∀ front, front <+: back → ¬FieldForm 0 front ∧ ¬FieldForm 1 front) ∨
  version = 1 ∧ ∃ skipped back, Many (FieldForm 0) skipped ∧
    fields = skipped ++ ([0x81, 0x21, 0x00] ++ (Ed25519.publicKeyOfSeed seed).bytes.toList) ++ back

theorem fieldsFit_of_fieldsForm {publicKey : Option (List UInt8)} {seed : Octets 32}
    {fields : List UInt8} (h : Key.PrivateDocument.FieldsForm fields publicKey)
    (hkey : ∀ key ∈ publicKey, key = (Ed25519.publicKeyOfSeed seed).bytes.toList) :
    FieldsFit (Key.PrivateDocument.versionByte publicKey.isSome) seed fields := by
  cases publicKey with
  | none =>
    obtain ⟨skipped, back, rfl, hskipped, hends, -⟩ :=
      Key.PrivateDocument.fieldsForm_none_iff.mp h
    exact Or.inl ⟨rfl, skipped, back, rfl, hskipped, fun front hfront ↦
      ⟨hends.not_fieldForm hfront zero_le_one, hends.not_fieldForm hfront le_rfl⟩⟩
  | some key =>
    rw [hkey key rfl] at h
    obtain ⟨skipped, back, rfl, hskipped, -⟩ := (Key.PrivateDocument.fieldsForm_some_iff _).mp h
    exact Or.inr ⟨rfl, skipped, back, hskipped, rfl⟩

/-- **The form of private keys.**  What signing accepts as a private key is the text of one sequence
whose header, of the shortest form, accounts for all bytes.  Its contents are a version, the
algorithm, the seed and context-specific fields that fit the version, and nothing else.  Signing
uses the seed, so two texts with the same seed sign alike. -/
theorem form_of_acceptsKey {privateKey : String} (h : AcceptsKey privateKey) :
    (∃ (document : List UInt8) (version : UInt8) (seed : Octets 32) (fields : List UInt8),
      Hex.decode privateKey = .ok document ∧
      ElementForm .sequence ([0x02, 0x01, version, 0x30, 0x05, 0x06, 0x03, 0x2b, 0x65, 0x70,
        0x04, 0x22, 0x04, 0x20] ++ seed.toList ++ fields) document ∧
      Many (fun t ↦ ∃ n, FieldForm n t) fields ∧ FieldsFit version seed fields ∧
      ∀ digest message, Hex.decode digest = .ok message →
        sign privateKey digest = .ok (Ed25519.sign seed message)) ∧
    ∀ privateKey' seed, AcceptsKey privateKey' → HoldsSeed privateKey seed →
      HoldsSeed privateKey' seed → ∀ digest, sign privateKey digest = sign privateKey' digest := by
  obtain ⟨pair, hkey⟩ := acceptsKey_iff.mp h
  refine ⟨?_, ?_⟩
  · obtain ⟨document, hdocument, publicKey, fields, hform, hfields, hpublic⟩ :=
      KeyPair.ofText_eq_ok_iff.mp hkey
    refine ⟨document, Key.PrivateDocument.versionByte publicKey.isSome, pair.seed, fields,
      hdocument, hform, hfields.many, fieldsFit_of_fieldsForm hfields hpublic, ?_⟩
    intro digest message hmessage
    rw [sign_eq_of_ofText hkey, hmessage]
    rfl
  · intro privateKey' seed h' hseed hseed' digest
    obtain ⟨pair', hkey'⟩ := acceptsKey_iff.mp h'
    rw [sign_eq_of_ofText hkey, sign_eq_of_ofText hkey', ← (holdsSeed_iff hkey).mp hseed,
      ← (holdsSeed_iff hkey').mp hseed']

/-- The seed of the second test vector of RFC 8032. -/
def vectorSeed : Octets 32 :=
  ⟨[0x4c, 0xcd, 0x08, 0x9b, 0x28, 0xff, 0x96, 0xda, 0x9d, 0xb6, 0xc3, 0x46, 0xec, 0x11, 0x4e,
    0x0f, 0x5b, 0x8a, 0x31, 0x9f, 0x35, 0xab, 0xa6, 0x24, 0xda, 0x8c, 0xf6, 0xed, 0x4f, 0xb8, 0xa6,
    0xfb], rfl⟩

/-- A document of that seed in version 2, with its public key between a field numbered 0 and one
numbered 3. -/
def vectorDocumentWithFields : List UInt8 :=
  [0x30, 0x59, 0x02, 0x01, 0x01, 0x30, 0x05, 0x06, 0x03, 0x2b, 0x65, 0x70, 0x04, 0x22, 0x04,
    0x20] ++ vectorSeed.toList ++ [0xa0, 0x02, 0x05, 0x00] ++ [0x81, 0x21, 0x00] ++
    [0x3d, 0x40, 0x17, 0xc3, 0xe8, 0x43, 0x89, 0x5a, 0x92, 0xb7, 0x0a, 0xa7, 0x4d, 0x1b, 0x7e,
    0xbc, 0x9c, 0x98, 0x2c, 0xcf, 0x2e, 0xc4, 0x96, 0x8c, 0xc0, 0xcd, 0x55, 0xf1, 0x2a, 0xf4, 0x66,
    0x0c] ++
    [0xa3, 0x02, 0x05, 0x00]

/-- This document and the one that is written for the seed sign alike. -/
theorem form_of_acceptsKey_vector :
    AcceptsKey (Hex.encode vectorDocumentWithFields) ∧ AcceptsKey (KeyPair.mk vectorSeed).toText ∧
    (∃ document version seed fields,
      Hex.decode (Hex.encode vectorDocumentWithFields) = .ok document ∧
      ElementForm .sequence ([0x02, 0x01, version, 0x30, 0x05, 0x06, 0x03, 0x2b, 0x65, 0x70,
        0x04, 0x22, 0x04, 0x20] ++ seed.toList ++ fields) document ∧
      FieldsFit version seed fields) ∧
    ∀ digest, sign (Hex.encode vectorDocumentWithFields) digest =
      sign (KeyPair.mk vectorSeed).toText digest := by
  have hfields : Key.PrivateDocument.decode vectorDocumentWithFields = .ok vectorSeed := by
    decide +kernel
  have hwritten : Key.PrivateDocument.decode (Key.PrivateDocument.encode vectorSeed) =
      .ok vectorSeed := by
    decide +kernel
  have hkey := KeyPair.ofText_encode hfields
  have hkey' : KeyPair.ofText (KeyPair.mk vectorSeed).toText = .ok ⟨vectorSeed⟩ :=
    KeyPair.ofText_encode hwritten
  have haccepts := acceptsKey_iff.mpr ⟨_, hkey⟩
  have haccepts' := acceptsKey_iff.mpr ⟨_, hkey'⟩
  obtain ⟨⟨document, version, seed, fields, hdocument, hform, -, hfit, -⟩, hsame⟩ :=
    form_of_acceptsKey haccepts
  exact ⟨haccepts, haccepts', ⟨document, version, seed, fields, hdocument, hform, hfit⟩,
    hsame _ _ haccepts' ((holdsSeed_iff hkey).mpr rfl) ((holdsSeed_iff hkey').mpr rfl)⟩

end Signer

end HexSigner
