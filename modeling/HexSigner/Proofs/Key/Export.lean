import HexSigner.Key.Export
import HexSigner.Proofs.Der.Encoder
import HexSigner.Proofs.Key.PrivateText
import HexSigner.Proofs.Text.LetterCase

/-!
# Exported keys are read back

A private key leaves as version 1 of its document and comes in as version 1 or 2.  Writing and
reading are separate: the writer puts elements together, and the reader accepts whatever its grammar
derives.  They agree (`exportedKey_signs`).

* Writing never fails, because all its elements are short.  What it writes for a seed is the sixteen
  bytes of a fixed header and the seed (`Key.PrivateDocument.write_none`).
* The text of that is read back, in any letter case, as the key pair with just that seed.
* Version 2 adds 32 bytes as the public key.  It is read only if they are the public key of the
  seed, byte for byte, so neither another key nor another encoding of the same point will do; and
  then it signs like version 1.
-/

set_option autoImplicit false

namespace HexSigner

open Der

/-! ## What is written -/

namespace Key.PrivateDocument

theorem length_contents (version : UInt8) (seed : Octets 32) (rest : List UInt8) :
    (contentsHeader version ++ seed.toList ++ rest).length = 46 + rest.length := by
  rw [List.length_append, List.length_append, seed.length_eq]
  rfl

/-- The documents whose contents are short. -/
theorem elementForm_contents_iff {version : UInt8} {seed : Octets 32} {rest document : List UInt8}
    (h : rest.length < 82) :
    ElementForm .sequence (contentsHeader version ++ seed.toList ++ rest) document ↔
      document = [0x30, UInt8.ofNat (46 + rest.length)] ++
        (contentsHeader version ++ seed.toList ++ rest) := by
  have hlen := length_contents version seed rest
  rw [elementForm_iff rfl (by omega), hlen]
  rfl

/-- The document of a seed in version 2, with some 32 bytes as its public key. -/
def encodeVersion2 (seed key : Octets 32) : List UInt8 :=
  [0x30, 0x51, 0x02, 0x01, 0x01, 0x30, 0x05, 0x06, 0x03, 0x2b, 0x65, 0x70, 0x04, 0x22, 0x04, 0x20]
    ++ seed.toList ++ [0x81, 0x21, 0x00] ++ key.toList

theorem length_keyField (key : Octets 32) : ([0x81, 0x21, 0x00] ++ key.toList).length = 35 := by
  rw [List.length_append, key.length_eq]
  rfl

theorem elementForm_encode (seed : Octets 32) :
    ElementForm .sequence (contentsHeader 0 ++ seed.toList ++ []) (encode seed) := by
  refine (elementForm_contents_iff (by decide)).mpr ?_
  rw [List.append_nil]
  rfl

theorem elementForm_encodeVersion2 (seed key : Octets 32) :
    ElementForm .sequence (contentsHeader 1 ++ seed.toList ++ ([0x81, 0x21, 0x00] ++ key.toList))
      (encodeVersion2 seed key) := by
  have hlen := length_keyField key
  refine (elementForm_contents_iff (by omega)).mpr ?_
  rw [hlen, encodeVersion2, List.append_assoc _ [0x81, 0x21, 0x00]]
  rfl

/-- What is written before the public key is the same for all seeds, but for the seed. -/
theorem write_eq (seed : Octets 32) (publicKey : Option (Octets 32)) :
    write seed publicKey = writePublicKey publicKey >>= fun field ↦ encodeElement .sequence
      (contentsHeader (versionByte publicKey.isSome) ++ seed.toList ++ field) := by
  have hlen : (0x04 :: 0x20 :: seed.toList).length = 34 := by
    rw [List.length_cons, List.length_cons, seed.length_eq]
  have hkey := encodeElement_of_lt .octetString rfl (hlen.trans_lt (by decide))
  rw [hlen] at hkey
  rw [write, hkey]
  cases publicKey <;> rfl

/-- **Without a public key, the header and the seed are written.** -/
theorem write_none (seed : Octets 32) : write seed none = .ok (encode seed) := by
  rw [write_eq]
  refine (encodeElement_eq_ok_iff rfl).mpr ⟨elementForm_encode seed, ?_⟩
  rw [encode, List.length_append, seed.length_eq]
  decide

/-- With a public key, a document is written in version 2. -/
theorem write_some (seed key : Octets 32) :
    write seed (some key) = .ok (encodeVersion2 seed key) := by
  have hlen : (0 :: key.toList).length = 33 := by rw [List.length_cons, key.length_eq]
  have hfield := encodeElement_of_lt (.contextSpecific false publicKeyField) rfl
    (hlen.trans_lt (by decide))
  rw [hlen] at hfield
  rw [write_eq, writePublicKey, hfield]
  refine (encodeElement_eq_ok_iff rfl).mpr ⟨elementForm_encodeVersion2 seed key, ?_⟩
  rw [encodeVersion2, List.append_assoc, List.length_append, length_keyField, List.length_append,
    seed.length_eq]
  decide

/-! ## What is read -/

/-- What stands in a document before, at and behind the seed can be told apart. -/
theorem contents_inj {v v' : UInt8} {seed seed' : Octets 32} {rest rest' : List UInt8}
    (h : contentsHeader v ++ seed.toList ++ rest = contentsHeader v' ++ seed'.toList ++ rest') :
    v = v' ∧ seed = seed' ∧ rest = rest' := by
  simp only [contentsHeader, List.cons_append, List.nil_append, List.cons.injEq, true_and] at h
  obtain ⟨hseed, hrest⟩ := List.append_inj h.2 (seed.length_eq.trans seed'.length_eq.symm)
  exact ⟨h.1, Octets.ext hseed, hrest⟩

/-- **A written document holds its own seed.** -/
theorem decode_encode (seed : Octets 32) : decode (encode seed) = .ok seed :=
  decode_eq_ok_iff.mpr ⟨none, [], elementForm_encode seed,
    fieldsForm_none_iff.mpr ⟨[], [], rfl, .nil, rfl, .nil⟩, by simp⟩

/-- Fields that are a public key and nothing else. -/
theorem fieldsForm_key_iff (key found : Octets 32) :
    FieldsForm ([0x81, 0x21, 0x00] ++ found.toList) (some key.toList) ↔ found = key := by
  rw [fieldsForm_some_iff]
  constructor
  · rintro ⟨skipped, back, h, -, -⟩
    -- the lengths leave nothing for fields before and behind the key
    have hlen := congrArg List.length h
    simp only [List.length_append, List.length_cons, List.length_nil, found.length_eq,
      key.length_eq] at hlen
    have hskipped : skipped = [] := List.length_eq_zero_iff.mp (by omega)
    have hback : back = [] := List.length_eq_zero_iff.mp (by omega)
    rw [hskipped, hback, List.nil_append, List.append_nil] at h
    exact Octets.ext (List.append_cancel_left h)
  · rintro rfl
    exact ⟨[], [], by simp, .nil, .nil⟩

/-- **A public key has to be that of the seed.**  A document in version 2 is read exactly if the
bytes in place of the public key are those of the key that the seed has. -/
theorem decode_encodeVersion2_iff {seed key seed' : Octets 32} :
    decode (encodeVersion2 seed key) = .ok seed' ↔
      seed' = seed ∧ key = (Ed25519.publicKeyOfSeed seed).bytes := by
  have hform := elementForm_encodeVersion2 seed key
  rw [decode_eq_ok_iff]
  constructor
  · rintro ⟨publicKey, rest, hcontents, hfields, hpublic⟩
    obtain ⟨hversion, rfl, rfl⟩ := contents_inj (hcontents.contents_unique hform)
    cases publicKey with
    | none => exact absurd hversion (by decide)
    | some bytes =>
      rw [hpublic bytes rfl, fieldsForm_key_iff] at hfields
      exact ⟨rfl, hfields⟩
  · rintro ⟨rfl, rfl⟩
    exact ⟨some (Ed25519.publicKeyOfSeed seed').bytes.toList, _, hform,
      (fieldsForm_key_iff _ _).mpr rfl, by simp⟩

end Key.PrivateDocument

/-! ## Export and import -/

namespace KeyPair

theorem exportDocument_eq (p : KeyPair) : p.exportDocument = .ok p.toDocument := by
  rw [exportDocument, Key.PrivateDocument.write_none]
  rfl

/-- **The text that is shown of a private key is the exported one.** -/
theorem exportText_eq (p : KeyPair) : p.exportText = .ok p.toText := by
  rw [exportText, exportDocument_eq]
  rfl

/-- A text is read as what its document holds. -/
theorem ofText_iff_of_toLower {text : String} {document : List UInt8} {pair : KeyPair}
    (h : text.toLower = Hex.encode document) :
    ofText text = .ok pair ↔ Key.PrivateDocument.decode document = .ok pair.seed := by
  rw [ofText_eq_ok_iff, Hex.decode_eq_ok_iff.mpr h, Key.PrivateDocument.decode_eq_ok_iff]
  simp only [Except.ok.injEq, exists_eq_left']

/-- **A text of an exported key is read as the key pair it was exported from.** -/
theorem ofText_of_toText {text : String} {p : KeyPair} (h : text.toLower = p.toText) :
    ofText text = .ok p :=
  (ofText_iff_of_toLower h).mpr (Key.PrivateDocument.decode_encode p.seed)

end KeyPair

namespace Signer

open Key.PrivateDocument (encodeVersion2 decode_encodeVersion2_iff)

/-- **Exported keys sign.**  The private half of every key pair is exported, without fail, as a
fixed header and the seed, in lower-case digits; any text of it that differs in letter case only is
read as just this key pair, and signing with it is signing with the seed.  A document in version 2
is a private key exactly if the public key in it is that of the seed, and then it signs like the
exported one. -/
theorem exportedKey_signs (p : KeyPair) :
    p.exportDocument = .ok ([0x30, 0x2e, 0x02, 0x01, 0x00, 0x30, 0x05, 0x06, 0x03, 0x2b, 0x65, 0x70,
      0x04, 0x22, 0x04, 0x20] ++ p.seed.toList) ∧
    (∃ exported, p.exportText = .ok exported ∧ exported = p.toText ∧
      exported = Hex.encode ([0x30, 0x2e, 0x02, 0x01, 0x00, 0x30, 0x05, 0x06, 0x03, 0x2b, 0x65,
        0x70, 0x04, 0x22, 0x04, 0x20] ++ p.seed.toList) ∧
      exported.length = 96 ∧ (∀ c ∈ exported.toList, c ∈ "0123456789abcdef".toList) ∧
      (∀ text : String, text.toLower = exported →
        KeyPair.ofText text = .ok p ∧
        ∀ digest, sign text digest =
          ((Hex.decode digest).mapError Hex.Fault.toFailure).map (Ed25519.sign p.seed)) ∧
      ∀ (key : Octets 32) (text : String),
        text.toLower = Hex.encode ([0x30, 0x51, 0x02, 0x01, 0x01, 0x30, 0x05, 0x06, 0x03, 0x2b,
          0x65, 0x70, 0x04, 0x22, 0x04, 0x20] ++ p.seed.toList ++ [0x81, 0x21, 0x00] ++
          key.toList) →
        (AcceptsKey text ↔ key = (Ed25519.publicKeyOfSeed p.seed).bytes) ∧
        (AcceptsKey text → ∀ digest, sign text digest = sign exported digest)) := by
  have hsign : ∀ text : String, KeyPair.ofText text = .ok p → ∀ digest, sign text digest =
      ((Hex.decode digest).mapError Hex.Fault.toFailure).map (Ed25519.sign p.seed) :=
    fun text h digest ↦ sign_eq_of_ofText h digest
  have hlower : p.toText.toLower = p.toText :=
    Hex.decode_eq_ok_iff.mp (Hex.decode_encode p.toDocument)
  refine ⟨p.exportDocument_eq, p.toText, p.exportText_eq, rfl, rfl, ?_, fun c ↦ Hex.mem_encode,
    ?_, ?_⟩
  · rw [KeyPair.toText, Hex.length_encode, KeyPair.toDocument, Key.PrivateDocument.encode,
      List.length_append, p.seed.length_eq]
    rfl
  · intro text htext
    have hkey := KeyPair.ofText_of_toText htext
    exact ⟨hkey, hsign text hkey⟩
  · intro key text htext
    have hread : ∀ pair, KeyPair.ofText text = .ok pair ↔
        pair = p ∧ key = (Ed25519.publicKeyOfSeed p.seed).bytes := by
      intro pair
      rw [KeyPair.ofText_iff_of_toLower htext, ← encodeVersion2, decode_encodeVersion2_iff]
      cases pair
      cases p
      rw [KeyPair.mk.injEq]
    refine ⟨?_, ?_⟩
    · simp only [acceptsKey_iff, hread, exists_and_right, exists_eq, true_and]
    · intro haccepts digest
      obtain ⟨pair, hpair⟩ := acceptsKey_iff.mp haccepts
      obtain ⟨rfl, -⟩ := (hread pair).mp hpair
      rw [hsign text hpair, hsign pair.toText (KeyPair.ofText_of_toText hlower)]

/-- The exported text of the second test vector of RFC 8032, in upper case. -/
def vectorExportUpper : String :=
  "302E020100300506032B657004220420" ++
    "4CCD089B28FF96DA9DB6C346EC114E0F5B8A319F35ABA624DA8CF6ED4FB8A6FB"

/-- The key of the test vector is read back from its text in upper case, and from a document in
version 2 with its public key, but not from one with the seed in place of that. -/
theorem exportedKey_signs_vector :
    KeyPair.ofText vectorExportUpper = .ok ⟨vectorSeed⟩ ∧
    (∃ exported, (KeyPair.mk vectorSeed).exportText = .ok exported ∧
      AcceptsKey (Hex.encode (encodeVersion2 vectorSeed
        (Ed25519.publicKeyOfSeed vectorSeed).bytes)) ∧
      ∀ digest, sign (Hex.encode (encodeVersion2 vectorSeed
        (Ed25519.publicKeyOfSeed vectorSeed).bytes)) digest = sign exported digest) ∧
    ¬AcceptsKey (Hex.encode (encodeVersion2 vectorSeed vectorSeed)) := by
  have hlower : ∀ document, (Hex.encode document).toLower = Hex.encode document :=
    fun document ↦ Hex.decode_eq_ok_iff.mp (Hex.decode_encode document)
  have hupper : Hex.decode vectorExportUpper =
      .ok (Key.PrivateDocument.header ++ vectorSeed.toList) := by
    decide +kernel
  have hother : ¬vectorSeed = (Ed25519.publicKeyOfSeed vectorSeed).bytes := by decide +kernel
  obtain ⟨-, exported, hexport, rfl, -, -, -, hread, hversion2⟩ := exportedKey_signs ⟨vectorSeed⟩
  obtain ⟨haccepts, hsame⟩ := hversion2 _ _ (hlower (encodeVersion2 vectorSeed
    (Ed25519.publicKeyOfSeed vectorSeed).bytes))
  obtain ⟨hrefuses, -⟩ := hversion2 _ _ (hlower (encodeVersion2 vectorSeed vectorSeed))
  exact ⟨(hread _ (Hex.decode_eq_ok_iff.mp hupper)).1,
    ⟨_, hexport, haccepts.mpr rfl, hsame (haccepts.mpr rfl)⟩, fun h ↦ hother (hrefuses.mp h)⟩

end Signer

end HexSigner
