import HexSigner.Key.PrivateDocument
import HexSigner.Proofs.Der.Field
import HexSigner.Proofs.Key.Algorithm
import HexSigner.Proofs.Octets

/-!
# What private key documents are

A private key document leaves its writer more freedom than a public key document: it has two
versions, and fields of any length may follow.  Around the seed there is none.  The documents that
reading accepts with a given seed are those of `SeedForm` and no others (`decode_eq_ok_iff`): the
version, the algorithm and the two headers in front of the seed are fixed bytes, the version tells
whether there is a public key, and a public key is that of the seed.
-/

set_option autoImplicit false

namespace HexSigner.Key.PrivateDocument

open Der Decoder

/-! ## The grammar of the contents -/

/-- The byte of a version. -/
def versionByte (version2 : Bool) : UInt8 := if version2 then 1 else 0

/-- What the reader of the public key takes, and what follows.  Fields numbered 0 come first.  The
public key comes next, and where there is none, anything but a field numbered 0 or 1. -/
def PublicKeyForm (bytes next : List UInt8) (publicKey : Option (List UInt8)) : Prop :=
  ∃ skipped front, bytes = skipped ++ front ∧ Many (FieldForm 0) skipped ∧
    match publicKey with
    | none => front = [] ∧ SearchEnds publicKeyField false next
    | some key => ElementForm (.contextSpecific false publicKeyField) (0 :: key) front

/-- The fields behind the key: a public key or none, and fields that hold one element each. -/
def FieldsForm (bytes : List UInt8) (publicKey : Option (List UInt8)) : Prop :=
  ∃ front back, bytes = front ++ back ∧ PublicKeyForm front back publicKey ∧ Many WrapperForm back

/-- The contents of a private key document. -/
def ContentsForm (bytes : List UInt8) (c : Contents) : Prop :=
  ∃ algorithm key rest,
    bytes = [0x02, 0x01, versionByte c.publicKey.isSome] ++ algorithm ++ key ++ rest ∧
      Algorithm.Form algorithm c.algorithm ∧ ElementForm .octetString c.key key ∧
      FieldsForm rest c.publicKey

/-- A private key document, whatever its algorithm and its key. -/
def Form (bytes : List UInt8) (c : Contents) : Prop :=
  ∃ contents, ElementForm .sequence contents bytes ∧ ContentsForm contents c

theorem reads_isVersion2 :
    Reads isVersion2 fun t version2 ↦ t = [0x02, 0x01, versionByte version2] := by
  refine (reads_smallInteger.bind (H := fun n t version2 ↦ t = [] ∧ n = version2.toNat)
    fun n ↦ ?_).congr fun t version2 ↦ ?_
  · split
    · exact (reads_pure false).congr fun t v ↦ by cases v <;> simp
    · exact (reads_pure true).congr fun t v ↦ by cases v <;> simp
    · rename_i h0 h1
      refine (reads_fail _).congr fun t v ↦ ⟨False.elim, fun ⟨_, hv⟩ ↦ ?_⟩
      cases v
      · exact h0 hv
      · exact h1 hv
  · have hform : ∀ s, (∃ contents, ElementForm .integer contents s ∧
        SmallIntegerForm contents version2.toNat) ↔ s = [0x02, 0x01, versionByte version2] := by
      intro s
      simp only [smallIntegerForm_iff (version2.toNat_lt.trans (by decide)), exists_eq_right]
      have hlen : [UInt8.ofNat version2.toNat].length < 0x80 := by simp
      rw [elementForm_iff rfl hlen]
      cases version2 <;> rfl
    constructor
    · rintro ⟨s, _, n, rfl, hs, rfl, rfl⟩
      rw [List.append_nil]
      exact (hform s).mp hs
    · intro ht
      exact ⟨t, [], version2.toNat, (List.append_nil t).symm, (hform t).mpr ht, rfl, rfl⟩

theorem many_fieldForm_iff {bytes : List UInt8} :
    Many (fun t ↦ ∃ n < publicKeyField, FieldForm n t) bytes ↔ Many (FieldForm 0) bytes := by
  constructor
  · refine Many.mono fun t ⟨n, hn, hform⟩ ↦ ?_
    rwa [Nat.lt_one_iff.mp hn] at hform
  · exact Many.mono fun t hform ↦ ⟨0, Nat.one_pos, hform⟩

theorem readsBefore_publicKey : ReadsBefore publicKey PublicKeyForm := by
  refine ((readsBefore_bitStringField publicKeyField).bind
    (H := fun found t key ↦ t = [] ∧ found = key.map some) fun found ↦ ?_).congr
    fun t next key ↦ ?_
  · split
    · exact (reads_pure none).congr fun t key ↦ by cases key <;> simp
    · exact (reads_fail _).congr fun t key ↦ by cases key <;> simp
    · exact (reads_pure _).congr fun t key ↦ by cases key <;> simp
  · constructor
    · rintro ⟨s, _, _, rfl, hform, rfl, rfl⟩
      rw [List.append_nil]
      cases key with
      | none =>
        exact ⟨s, [], (List.append_nil s).symm, many_fieldForm_iff.mp hform.1, rfl, hform.2⟩
      | some key =>
        obtain ⟨skipped, front, contents, rfl, hmany, hfront, hbits⟩ := hform
        rw [bitStringForm_some_iff.mp hbits] at hfront
        exact ⟨skipped, front, rfl, many_fieldForm_iff.mp hmany, hfront⟩
    · rintro ⟨skipped, front, rfl, hmany, hform⟩
      refine ⟨skipped ++ front, [], key.map some, (List.append_nil _).symm, ?_, rfl, rfl⟩
      cases key with
      | none =>
        obtain ⟨rfl, hends⟩ := hform
        rw [List.append_nil]
        exact ⟨many_fieldForm_iff.mpr hmany, hends⟩
      | some key =>
        exact ⟨skipped, front, 0 :: key, rfl, many_fieldForm_iff.mpr hmany, hform,
          bitStringForm_some_iff.mpr rfl⟩

theorem reads_contents : Reads contents Form := by
  have hrest : ∀ (version2 : Bool) (c : Contents), ReadsWhole
      (if version2 ≠ c.publicKey.isSome then
        failHere (.badValue (.contextSpecific true publicKeyField))
      else do
        let fuel ← fun r ↦ .ok (r.bytes.length, r)
        fields fuel
        return c)
      fun t c' ↦ version2 = c.publicKey.isSome ∧ Many WrapperForm t ∧ c = c' := by
    intro version2 c
    split
    · rename_i hne
      intro r c'
      exact ⟨fun ⟨_, h, _⟩ ↦ (nomatch h), fun ⟨h, _⟩ ↦ absurd h hne⟩
    · rename_i heq
      rw [ne_eq, Decidable.not_not] at heq
      exact (readsWhole_fields c).congr fun t c' ↦ (and_iff_right heq).symm
  have hcontents := reads_isVersion2.bind_readsWhole fun version2 ↦
    Algorithm.reads_decoder.located.bind_readsWhole fun algorithm ↦
      reads_octetString.bind_readsWhole fun key ↦
        readsBefore_publicKey.bind_readsWhole fun publicKey ↦
          hrest version2 ⟨algorithm, key, publicKey⟩
  refine (hcontents.congr (H := ContentsForm) fun t c ↦ ?_).sequence
  constructor
  · rintro ⟨_, _, version2, rfl, rfl, algorithm, _, alg, rfl, halg, key, _, octets, rfl, hkey,
      front, back, publicKey, rfl, hpublic, rfl, hback, rfl⟩
    exact ⟨algorithm, key, front ++ back, by simp, halg, hkey, front, back, rfl, hpublic, hback⟩
  · rintro ⟨algorithm, key, _, rfl, halg, hkey, front, back, rfl, hpublic, hback⟩
    exact ⟨_, algorithm ++ (key ++ (front ++ back)), c.publicKey.isSome, by simp, rfl, algorithm, _,
      c.algorithm, rfl, halg, key, _, c.key, rfl, hkey, front, back, c.publicKey, rfl, hpublic, rfl,
      hback, rfl⟩

/-! ## The fields behind the key -/

theorem FieldsForm.many {bytes : List UInt8} {publicKey : Option (List UInt8)}
    (h : FieldsForm bytes publicKey) : Many (fun t ↦ ∃ n, FieldForm n t) bytes := by
  obtain ⟨_, back, rfl, ⟨skipped, front, rfl, hskipped, hfront⟩, hback⟩ := h
  refine (Many.append (hskipped.mono fun t ht ↦ ⟨0, ht⟩) ?_).append
    (hback.mono fun t ht ↦ ht.fieldForm)
  cases publicKey with
  | none =>
    rw [hfront.1]
    exact .nil
  | some key => exact .single ⟨publicKeyField, false, 0 :: key, hfront⟩

theorem fieldsForm_none_iff {bytes : List UInt8} :
    FieldsForm bytes none ↔
      ∃ skipped back, bytes = skipped ++ back ∧ Many (FieldForm 0) skipped ∧
        SearchEnds publicKeyField false back ∧ Many WrapperForm back := by
  constructor
  · rintro ⟨_, back, rfl, ⟨skipped, _, rfl, hskipped, rfl, hends⟩, hback⟩
    exact ⟨skipped, back, by rw [List.append_nil], hskipped, hends, hback⟩
  · rintro ⟨skipped, back, rfl, hskipped, hends, hback⟩
    exact ⟨skipped, back, rfl, ⟨skipped, [], (List.append_nil _).symm, hskipped, rfl, hends⟩, hback⟩

/-- A public key of 32 bytes has one form. -/
theorem fieldsForm_some_iff {bytes : List UInt8} (key : Octets 32) :
    FieldsForm bytes (some key.toList) ↔
      ∃ skipped back, bytes = skipped ++ ([0x81, 0x21, 0x00] ++ key.toList) ++ back ∧
        Many (FieldForm 0) skipped ∧ Many WrapperForm back := by
  have hlen : (0 :: key.toList).length = 33 := by rw [List.length_cons, key.length_eq]
  have hkey : ∀ front, ElementForm (.contextSpecific false publicKeyField) (0 :: key.toList) front ↔
      front = [0x81, 0x21, 0x00] ++ key.toList := by
    intro front
    rw [elementForm_iff rfl (by omega), hlen]
    rfl
  constructor
  · rintro ⟨_, back, rfl, ⟨skipped, front, rfl, hskipped, hfront⟩, hback⟩
    exact ⟨skipped, back, by rw [(hkey front).mp hfront], hskipped, hback⟩
  · rintro ⟨skipped, back, rfl, hskipped, hback⟩
    exact ⟨_, back, rfl, ⟨skipped, _, rfl, hskipped, (hkey _).mpr rfl⟩, hback⟩

/-! ## The documents of a seed -/

/-- The contents in front of the seed: the version, the algorithm, and the headers of one octet
string within another. -/
def contentsHeader (version : UInt8) : List UInt8 :=
  [0x02, 0x01, version, 0x30, 0x05, 0x06, 0x03, 0x2b, 0x65, 0x70, 0x04, 0x22, 0x04, 0x20]

/-- The documents of a seed.  Version 1 has no public key, and version 2 has that of the seed. -/
def SeedForm (document : List UInt8) (seed : Octets 32) : Prop :=
  ∃ publicKey rest,
    ElementForm .sequence (contentsHeader (versionByte publicKey.isSome) ++ seed.toList ++ rest)
      document ∧ FieldsForm rest publicKey ∧
    ∀ key ∈ publicKey, key = (Ed25519.publicKeyOfSeed seed).bytes.toList

theorem seed?_eq_some_iff {bytes : List UInt8} {seed : Octets 32} :
    seed? bytes = some seed ↔ bytes = 0x04 :: 0x20 :: seed.toList := by
  constructor
  · intro h
    rw [seed?.eq_def] at h
    split at h
    · rw [Octets.ofList?_eq_some_iff.mp h]
    · cases h
  · rintro rfl
    exact Octets.ofList?_toList seed

/-- The contents of a document for Ed25519 without parameters, with a seed. -/
theorem form_iff {document : List UInt8} {seed : Octets 32} {publicKey : Option (List UInt8)} :
    Form document ⟨⟨Algorithm.ed25519Identifier, false⟩, 0x04 :: 0x20 :: seed.toList, publicKey⟩ ↔
      ∃ rest, ElementForm .sequence
        (contentsHeader (versionByte publicKey.isSome) ++ seed.toList ++ rest) document ∧
          FieldsForm rest publicKey := by
  have hlen : (0x04 :: 0x20 :: seed.toList).length = 34 := by
    rw [List.length_cons, List.length_cons, seed.length_eq]
  have hkey : ∀ key, ElementForm .octetString (0x04 :: 0x20 :: seed.toList) key ↔
      key = [0x04, 0x22, 0x04, 0x20] ++ seed.toList := by
    intro key
    rw [elementForm_iff rfl (by omega), hlen]
    rfl
  simp only [Form, ContentsForm, Algorithm.form_ed25519_iff, hkey]
  constructor
  · rintro ⟨_, hform, _, _, rest, rfl, rfl, rfl, hrest⟩
    exact ⟨rest, hform, hrest⟩
  · rintro ⟨rest, hform, hrest⟩
    exact ⟨_, hform, _, [0x04, 0x22, 0x04, 0x20] ++ seed.toList, rest, rfl, rfl, rfl, hrest⟩

/-- The seed stands behind the first 14 bytes of the contents. -/
theorem take_drop_contents (version : UInt8) (seed : Octets 32) (rest : List UInt8) :
    ((contentsHeader version ++ seed.toList ++ rest).drop 14).take 32 = seed.toList := by
  have hdrop : (contentsHeader version ++ seed.toList ++ rest).drop 14 = seed.toList ++ rest := rfl
  rw [hdrop, List.take_left' seed.length_eq]

/-- Behind the grammar, reading asks for the algorithm, for a seed, and for the public key of the
seed where there is a public key. -/
theorem decode_eq_ok_iff_run {document : List UInt8} {seed : Octets 32} :
    decode document = .ok seed ↔
      ∃ publicKey, run contents document =
          .ok ⟨⟨Algorithm.ed25519Identifier, false⟩, 0x04 :: 0x20 :: seed.toList, publicKey⟩ ∧
        ∀ key ∈ publicKey, key = (Ed25519.publicKeyOfSeed seed).bytes.toList := by
  constructor
  · intro h
    rw [decode] at h
    split at h
    · cases h
    · rename_i c hcontents
      obtain ⟨⟨identifier, hasParameters⟩, key, publicKey⟩ := c
      split at h
      · cases h
      · rename_i hid
        split at h
        · cases h
        · rename_i hpar
          rw [ne_eq, Decidable.not_not] at hid
          rw [Bool.not_eq_true] at hpar
          subst hid hpar
          split at h
          · cases h
          · rename_i seed' hseed
            rw [seed?_eq_some_iff] at hseed
            subst hseed
            cases publicKey with
            | none =>
              cases h
              exact ⟨none, hcontents, by simp⟩
            | some bytes =>
              dsimp only at h
              split at h
              · rename_i hbytes
                cases h
                exact ⟨some bytes, hcontents, by simpa using hbytes⟩
              · cases h
  · rintro ⟨publicKey, hcontents, hpublic⟩
    rw [decode, hcontents]
    cases publicKey with
    | none => simp [seed?_eq_some_iff.mpr rfl]
    | some key => simp [seed?_eq_some_iff.mpr rfl, hpublic key rfl]

/-- **What reading accepts.**  The documents that are read as a seed are the documents of the
seed. -/
theorem decode_eq_ok_iff {document : List UInt8} {seed : Octets 32} :
    decode document = .ok seed ↔ SeedForm document seed := by
  rw [decode_eq_ok_iff_run]
  simp only [reads_contents.readsWhole.run_eq_ok_iff, form_iff]
  constructor
  · rintro ⟨publicKey, ⟨rest, hform, hrest⟩, hpublic⟩
    exact ⟨publicKey, rest, hform, hrest, hpublic⟩
  · rintro ⟨publicKey, rest, hform, hrest, hpublic⟩
    exact ⟨publicKey, ⟨rest, hform, hrest⟩, hpublic⟩

end HexSigner.Key.PrivateDocument
