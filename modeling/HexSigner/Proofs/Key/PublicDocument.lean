import HexSigner.Key.PublicDocument
import HexSigner.Proofs.Key.Algorithm
import HexSigner.Proofs.Octets

/-!
# What public key documents are

The reader of public key documents goes through the general grammar of DER, the writer puts a fixed
header in front of the key.  They do not drift apart: the documents that reading accepts are the
header followed by 32 bytes that encode a point, and nothing else (`decode_eq_ok_iff`).

All parts of an accepted document are short, so each of them has one form only, from the inside
out.
-/

set_option autoImplicit false

namespace HexSigner.Key.PublicDocument

open Der Decoder

/-- The contents of a public key document: an algorithm and a bit string. -/
def ContentsForm (bytes : List UInt8) (value : Algorithm × Option (List UInt8)) : Prop :=
  ∃ front back, bytes = front ++ back ∧ Algorithm.Form front value.1 ∧
    ∃ contents, ElementForm .bitString contents back ∧ BitStringForm contents value.2

/-- A public key document. -/
def Form (bytes : List UInt8) (value : Algorithm × Option (List UInt8)) : Prop :=
  ∃ contents, ElementForm .sequence contents bytes ∧ ContentsForm contents value

theorem reads_contents : Reads contents Form := by
  have hcontents := Algorithm.reads_decoder.located.bind_readsWhole fun algorithm ↦
    reads_bitString.readsWhole.bind_pure fun key ↦ (algorithm, key)
  refine (hcontents.congr (H := ContentsForm) fun t a ↦ ?_).sequence
  constructor
  · rintro ⟨front, back, algorithm, rfl, halg, key, hkey, rfl⟩
    exact ⟨front, back, rfl, halg, hkey⟩
  · rintro ⟨front, back, rfl, halg, hkey⟩
    exact ⟨front, back, a.1, rfl, halg, a.2, hkey, rfl⟩

/-- **The document of a key of 32 bytes has one form.** -/
theorem form_iff {bytes : List UInt8} (key : Octets 32) :
    Form bytes (⟨Algorithm.ed25519Identifier, false⟩, some key.toList) ↔ bytes = encode key := by
  have hlen : (0 :: key.toList).length = 33 := by rw [List.length_cons, key.length_eq]
  have hbits : ∀ back, ElementForm .bitString (0 :: key.toList) back ↔
      back = 0x03 :: 0x21 :: 0 :: key.toList := by
    intro back
    rw [elementForm_iff rfl (by omega), hlen]
    rfl
  have hcontents : ∀ contents,
      ContentsForm contents (⟨Algorithm.ed25519Identifier, false⟩, some key.toList) ↔
        contents = Algorithm.ed25519Bytes ++ 0x03 :: 0x21 :: 0 :: key.toList := by
    intro contents
    simp only [ContentsForm, Algorithm.form_ed25519_iff, bitStringForm_some_iff]
    constructor
    · rintro ⟨_, back, rfl, rfl, _, hback, rfl⟩
      rw [(hbits back).mp hback]
    · rintro rfl
      exact ⟨_, _, rfl, rfl, _, (hbits _).mpr rfl, rfl⟩
  have hlen' : (Algorithm.ed25519Bytes ++ 0x03 :: 0x21 :: 0 :: key.toList).length = 42 := by
    simp [Algorithm.ed25519Bytes, key.length_eq]
  simp only [Form, hcontents, exists_eq_right]
  rw [elementForm_iff rfl (by omega), hlen']
  rfl

/-- **What reading accepts.**  A document is the header and 32 bytes that encode a point, and the
key is these bytes and that point. -/
theorem decode_eq_ok_iff {document : List UInt8} {k : PublicKey} :
    decode document = .ok k ↔ document = encode k.bytes ∧ Ed25519.publicKey? k.bytes = some k := by
  have hrun : ∀ a, run contents document = .ok a ↔ Form document a := fun a ↦
    reads_contents.readsWhole.run_eq_ok_iff
  constructor
  · intro h
    rw [decode] at h
    split at h
    · cases h
    · rename_i algorithm key hcontents
      split at h
      · cases h
      · rename_i hid
        split at h
        · cases h
        · rename_i hpar
          split at h
          · cases h
          · rename_i k' hkey
            cases h
            obtain ⟨bytes, hbytes, hpoint⟩ := Option.bind_eq_some_iff.mp hkey
            obtain ⟨list, rfl, hlist⟩ := Option.bind_eq_some_iff.mp hbytes
            have hk : k.bytes = bytes := by
              obtain ⟨p, -, rfl⟩ := Option.map_eq_some_iff.mp hpoint
              rfl
            rw [Octets.ofList?_eq_some_iff] at hlist
            have halg : algorithm = ⟨Algorithm.ed25519Identifier, false⟩ := by
              cases algorithm
              simp_all
            rw [halg, hlist, hrun, form_iff] at hcontents
            rw [hk]
            exact ⟨hcontents, hpoint⟩
  · rintro ⟨hdoc, hpoint⟩
    have hcontents := (hrun _).mpr ((form_iff k.bytes).mpr hdoc)
    rw [decode, hcontents]
    simp [Octets.ofList?_toList, hpoint]

end HexSigner.Key.PublicDocument
