import HexSigner.Proofs.Key.PrivateText

/-!
# Which failures there are

A failure has a kind, and the kind says which argument is at fault.  When several are, the order in
which they are read decides: the key comes before the digest, and a text has to be hexadecimal
before its length matters.  So the kind of a failure can be told from the arguments without looking
at what the operation does with them, and this file does so for each operation (`failure_kinds`).

What it takes to be a private key or hexadecimal is said here by the grammar of documents and by
`isHex`, not by the readers.
-/

set_option autoImplicit false

namespace HexSigner

/-- A text is a private key: the hexadecimal form of a private key document. -/
def IsPrivateKey (text : String) : Prop :=
  ∃ document seed, Hex.decode text = .ok document ∧
    Key.PrivateDocument.SeedForm document seed

theorem isPrivateKey_iff {text : String} :
    IsPrivateKey text ↔ ∃ pair, KeyPair.ofText text = .ok pair := by
  simp only [KeyPair.ofText_eq_ok_iff]
  constructor
  · rintro ⟨document, seed, hdocument, hform⟩
    exact ⟨⟨seed⟩, document, hdocument, hform⟩
  · rintro ⟨pair, document, hdocument, hform⟩
    exact ⟨document, pair.seed, hdocument, hform⟩

/-- A text that is no private key has a fault, and it is a fault of a key. -/
theorem exists_fault_iff {text : String} :
    (∃ fault, KeyPair.ofText text = .error (.invalidKey fault)) ↔ ¬IsPrivateKey text := by
  rw [isPrivateKey_iff]
  cases h : KeyPair.ofText text with
  | error f =>
    obtain ⟨fault, rfl⟩ := KeyPair.exists_fault_of_ofText h
    simp
  | ok pair => simp

theorem Hex.isHex_eq_false_iff (text : String) :
    isHex text = false ↔ ∃ f, decode text = .error f := by
  rw [← Bool.not_eq_true, isHex_iff_exists_decode]
  cases decode text <;> simp

/-! ## Signing -/

namespace Signer

variable {privateKey digest text : String}

/-- Signing fails because of the key, whatever the digest, or else because of the digest. -/
theorem sign_eq_error_iff {f : Failure} :
    sign privateKey digest = .error f ↔
      (∃ fault, KeyPair.ofText privateKey = .error (.invalidKey fault) ∧
        f = .invalidKey fault) ∨
      IsPrivateKey privateKey ∧
        ∃ g, Hex.decode digest = .error g ∧ f = .invalidInput (.notHex g) := by
  rw [isPrivateKey_iff]
  cases hkey : KeyPair.ofText privateKey with
  | error f' =>
    obtain ⟨fault, rfl⟩ := KeyPair.exists_fault_of_ofText hkey
    rw [sign, hkey]
    simp [eq_comm]
  | ok pair =>
    rw [sign_eq_of_ofText hkey]
    cases Hex.decode digest with
    | error g => simp [Except.mapError, Except.map, Hex.Fault.toFailure, eq_comm]
    | ok message => simp [Except.mapError, Except.map]

theorem sign_eq_invalidKey_iff {fault : KeyFault} :
    sign privateKey digest = .error (.invalidKey fault) ↔
      KeyPair.ofText privateKey = .error (.invalidKey fault) := by
  rw [sign_eq_error_iff]
  simp

theorem sign_eq_invalidInput_iff {fault : InputFault} :
    sign privateKey digest = .error (.invalidInput fault) ↔
      IsPrivateKey privateKey ∧ ∃ g, Hex.decode digest = .error g ∧ fault = .notHex g := by
  rw [sign_eq_error_iff]
  simp

theorem sign_ne_keyGeneration (reason : String) :
    sign privateKey digest ≠ .error (.keyGeneration reason) := by
  rw [ne_eq, sign_eq_error_iff]
  simp

theorem exists_sign_eq_ok_iff :
    (∃ s, sign privateKey digest = .ok s) ↔
      IsPrivateKey privateKey ∧ Hex.isHex digest = true := by
  rw [isPrivateKey_iff, Hex.isHex_iff_exists_decode]
  simp only [sign_eq_ok_iff]
  constructor
  · rintro ⟨s, pair, message, hkey, hmessage, -⟩
    exact ⟨⟨pair, hkey⟩, message, hmessage⟩
  · rintro ⟨⟨pair, hkey⟩, message, hmessage⟩
    exact ⟨_, pair, message, hkey, hmessage, rfl⟩

/-! ## Public keys -/

theorem exists_fault_of_parsePublicKey {f : Failure} (h : parsePublicKey text = .error f) :
    ∃ fault, f = .invalidKey fault := by
  rw [parsePublicKey, PublicKey.ofText] at h
  split at h
  · cases h
    exact ⟨_, rfl⟩
  · rw [PublicKey.ofDocument] at h
    cases hdecode : Key.PublicDocument.decode _ with
    | error g =>
      rw [hdecode] at h
      cases h
      exact ⟨_, rfl⟩
    | ok k =>
      rw [hdecode] at h
      cases h

theorem validatePublicKey_iff :
    validatePublicKey text = true ↔ ∃ k, parsePublicKey text = .ok k := by
  rw [validatePublicKey, parsePublicKey]
  cases PublicKey.ofText text with
  | error f => simp [Except.toBool]
  | ok k => simp [Except.toBool]

end Signer

/-! ## Signatures -/

namespace Signature

theorem ofBytes_eq_error_iff {bytes : List UInt8} {f : Failure} :
    ofBytes bytes = .error f ↔
      bytes.length ≠ 64 ∧ f = .invalidInput (.signatureLength bytes.length) := by
  rw [ofBytes, Octets.ofList?]
  split
  · rename_i h
    split at h
    · cases h
    · rename_i hne
      simp [hne, eq_comm]
  · rename_i h
    split at h
    · rename_i heq
      simp [heq]
    · cases h

theorem ofText_eq_error_iff {text : String} {f : Failure} :
    ofText text = .error f ↔
      (∃ g, Hex.decode text = .error g ∧ f = .invalidInput (.notHex g)) ∨
      ∃ bytes, Hex.decode text = .ok bytes ∧ bytes.length ≠ 64 ∧
        f = .invalidInput (.signatureLength bytes.length) := by
  rw [ofText]
  cases Hex.decode text with
  | error g => simp [Hex.Fault.toFailure, eq_comm]
  | ok bytes => simp [ofBytes_eq_error_iff]

end Signature

/-! ## All operations -/

namespace Signer

theorem generate_eq_error_iff {draw : Draw} {f : Failure} :
    (generate draw).value = .error f ↔ draw = .error f := by
  cases draw <;> simp [generate]

theorem generate_eq_ok_iff {draw : Draw} {seed : Octets 32} :
    (generate draw).value = .ok ⟨seed⟩ ↔ draw = .ok seed := by
  cases draw <;> simp [generate]

/-- A generation from what the operating system supplies warns exactly if it fails. -/
theorem exists_warning_iff {supplied : Except String (Octets 32)} :
    (∃ e ∈ (generateFromSystem supplied).events, e.level = .warn) ↔
      ∃ f, (generateFromSystem supplied).value = .error f := by
  cases supplied with
  | ok seed => simp [generateFromSystem, Entropy.fill, generate, event]
  | error reason => simp [generateFromSystem, Entropy.fill, generate, Entropy.unavailable]

/-- **The kind of a failure says what is at fault.**

* Signing fails because of the key exactly if the text is no private key, and then in the same way
  for every digest; because of the digest exactly if the text is a private key and the digest is not
  hexadecimal, for the codec's reason; and never for want of randomness.  Otherwise it succeeds.
* Parsing a public key fails because of the key only, and validating asks whether it succeeds.
* Reading a signature fails because of the input only.  That a text is not hexadecimal comes before
  its length.
* Generating a key pair fails exactly as the draw does. -/
theorem failure_kinds (privateKey digest text : String) (bytes : List UInt8) (draw : Draw) :
    (((∃ fault, sign privateKey digest = .error (.invalidKey fault)) ↔ ¬IsPrivateKey privateKey) ∧
      (∀ digest' fault, sign privateKey digest = .error (.invalidKey fault) ↔
        sign privateKey digest' = .error (.invalidKey fault)) ∧
      ((∃ fault, sign privateKey digest = .error (.invalidInput fault)) ↔
        IsPrivateKey privateKey ∧ Hex.isHex digest = false) ∧
      (∀ fault, sign privateKey digest = .error (.invalidInput fault) ↔
        IsPrivateKey privateKey ∧ ∃ g, Hex.decode digest = .error g ∧ fault = .notHex g ∧
          fault.reason = g.reason) ∧
      ((∃ s, sign privateKey digest = .ok s) ↔
        IsPrivateKey privateKey ∧ Hex.isHex digest = true) ∧
      ∀ reason, sign privateKey digest ≠ .error (.keyGeneration reason)) ∧
    (((∃ key, parsePublicKey text = .ok key) ∨
        ∃ fault, parsePublicKey text = .error (.invalidKey fault)) ∧
      (validatePublicKey text = true ↔ ∃ key, parsePublicKey text = .ok key)) ∧
    ((∀ f, Signature.ofText text = .error f ↔
        (∃ g, Hex.decode text = .error g ∧ f = .invalidInput (.notHex g)) ∨
        ∃ bytes, Hex.decode text = .ok bytes ∧ bytes.length ≠ 64 ∧
          f = .invalidInput (.signatureLength bytes.length)) ∧
      ∀ f, Signature.ofBytes bytes = .error f ↔
        bytes.length ≠ 64 ∧ f = .invalidInput (.signatureLength bytes.length)) ∧
    (∀ f, (generate draw).value = .error f ↔ draw = .error f) ∧
      ∀ seed, (generate draw).value = .ok ⟨seed⟩ ↔ draw = .ok seed := by
  refine ⟨⟨?_, ?_, ?_, ?_, exists_sign_eq_ok_iff, sign_ne_keyGeneration⟩,
    ⟨?_, validatePublicKey_iff⟩,
    ⟨fun f ↦ Signature.ofText_eq_error_iff, fun f ↦ Signature.ofBytes_eq_error_iff⟩,
    fun f ↦ generate_eq_error_iff, fun seed ↦ generate_eq_ok_iff⟩
  · simp only [sign_eq_invalidKey_iff, exists_fault_iff]
  · intro digest' fault
    rw [sign_eq_invalidKey_iff, sign_eq_invalidKey_iff]
  · simp only [sign_eq_invalidInput_iff, Hex.isHex_eq_false_iff]
    exact ⟨fun ⟨_, hkey, g, hg, _⟩ ↦ ⟨hkey, g, hg⟩, fun ⟨hkey, g, hg⟩ ↦ ⟨_, hkey, g, hg, rfl⟩⟩
  · intro fault
    rw [sign_eq_invalidInput_iff]
    refine and_congr_right fun _ ↦ exists_congr fun g ↦ and_congr_right fun _ ↦ ?_
    exact ⟨fun h ↦ ⟨h, h ▸ rfl⟩, fun h ↦ h.1⟩
  · cases h : parsePublicKey text with
    | error f =>
      obtain ⟨fault, rfl⟩ := exists_fault_of_parsePublicKey h
      exact Or.inr ⟨fault, rfl⟩
    | ok key => exact Or.inl ⟨key, rfl⟩

end Signer

end HexSigner
