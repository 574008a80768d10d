import HexSigner.Proofs.Failure

/-!
# What a failure says about a seed

A private key that was cut off, or that has something wrong behind its seed, is refused with a
message that carries offsets, lengths and tags of the document.  None of them comes from the seed:
two documents that differ in their seeds only, and are cut off at the same place, are refused with
the same failure.

The reason is that the seed is never looked into while the document is read.  It is taken as the
contents of an octet string, whose length is written in front of it; how the reading goes on depends
on the bytes behind it.  `Alike` compares two readings in this sense, and `alike_contents` follows
two documents from their headers to the fields behind the seed.  Afterwards the public key in the
document, if there is one, is compared with that of the seed, and there is only one failure for
that.

What is not hexadecimal is refused without a word about what it is (`failure_hides_seed`).
-/

set_option autoImplicit false

namespace HexSigner

open Der Decoder

/-! ## Two readings -/

namespace Der

variable {α β : Type}

/-- Two readings are alike: both fail with the same failure, or both succeed, with values that `R`
relates, and leave the same. -/
inductive Alike (R : α → α → Prop) :
    Except Failure (α × Region) → Except Failure (α × Region) → Prop
  | error (f : Failure) : Alike R (.error f) (.error f)
  | ok {a b : α} (h : R a b) (r : Region) : Alike R (.ok (a, r)) (.ok (b, r))

/-- Up to the point where they differ, two decoders that begin alike are alike. -/
theorem alike_bind {R : β → β → Prop} {d : Decoder α} {f g : α → Decoder β} {r : Region}
    (h : ∀ a r', d r = .ok (a, r') → Alike R (f a r') (g a r')) :
    Alike R ((d >>= f) r) ((d >>= g) r) := by
  rw [bind_eq, bind_eq]
  cases hd : d r with
  | error e => exact .error e
  | ok p => exact h p.1 p.2 hd

/-- Confined to the next `n` bytes of two regions of the same length, two readings are alike if they
are alike on these bytes and the bytes behind are the same. -/
theorem alike_within {R : α → α → Prop} {d : Decoder α} {n start offset : Nat}
    {bytes bytes' : List UInt8} (hlength : bytes.length = bytes'.length)
    (hdrop : bytes.drop n = bytes'.drop n)
    (h : n ≤ bytes.length →
      Alike R (d ⟨offset, offset, bytes.take n⟩) (d ⟨offset, offset, bytes'.take n⟩)) :
    Alike R (within n d ⟨start, offset, bytes⟩) (within n d ⟨start, offset, bytes'⟩) := by
  by_cases hn : n ≤ bytes.length
  · rw [within_eq_of_le hn, within_eq_of_le (hlength ▸ hn), hdrop]
    generalize hx : d ⟨offset, offset, bytes.take n⟩ = x at h
    generalize hy : d ⟨offset, offset, bytes'.take n⟩ = y at h
    cases h hn with
    | error f => exact .error f
    | ok hab r =>
      dsimp only
      split
      · exact .ok hab _
      · exact .error _
  · rw [Nat.not_le] at hn
    rw [within_eq_of_lt hn, within_eq_of_lt (hlength ▸ hn), hlength]
    exact .error _

/-- Two documents that are read alike have the same fault, or contents that are related. -/
theorem run_of_alike {R : α → α → Prop} {d : Decoder α} {document document' : List UInt8}
    (h : Alike R (d ⟨0, 0, document⟩) (d ⟨0, 0, document'⟩)) :
    (∃ f, run d document = .error f ∧ run d document' = .error f) ∨
      ∃ a b, run d document = .ok a ∧ run d document' = .ok b ∧ R a b := by
  rw [run, run]
  generalize d ⟨0, 0, document⟩ = x at h
  generalize d ⟨0, 0, document'⟩ = y at h
  cases h with
  | error f => exact .inl ⟨f.fault, rfl, rfl⟩
  | @ok a b h r =>
    dsimp only
    split
    · exact .inr ⟨a, b, rfl, rfl, h⟩
    · exact .inl ⟨_, rfl, rfl⟩

end Der

/-! ## Two documents -/

namespace Key.PrivateDocument

/-- What is read behind the seed, and made of all that was read. -/
def behindKey (version2 : Bool) (algorithm : Algorithm) (key : List UInt8) : Decoder Contents := do
  let publicKey ← publicKey
  if version2 ≠ publicKey.isSome then
    failHere (.badValue (.contextSpecific true publicKeyField))
  else
    let fuel ← fun r ↦ .ok (r.bytes.length, r)
    fields fuel
    return ⟨algorithm, key, publicKey⟩

/-- What is read within the sequence. -/
def inside : Decoder Contents := do
  let version2 ← isVersion2
  let algorithm ← located Algorithm.decoder
  let key ← octetString
  behindKey version2 algorithm key

theorem contents_eq_sequence : contents = sequence inside := rfl

/-- The contents of two documents that differ in their seeds only. -/
def SeedsDiffer (a b : Octets 32) (c c' : Contents) : Prop :=
  ∃ publicKey, c = ⟨⟨Algorithm.ed25519Identifier, false⟩, 0x04 :: 0x20 :: a.toList, publicKey⟩ ∧
    c' = ⟨⟨Algorithm.ed25519Identifier, false⟩, 0x04 :: 0x20 :: b.toList, publicKey⟩

/-- Reading goes on behind the seed without having looked into it. -/
theorem inside_eq_behindKey (version2 : Bool) (seed : Octets 32) (rest : List UInt8) :
    inside ⟨2, 2, contentsHeader (versionByte version2) ++ seed.toList ++ rest⟩ =
      behindKey version2 ⟨Algorithm.ed25519Identifier, false⟩ (0x04 :: 0x20 :: seed.toList)
        ⟨2, 48, rest⟩ := by
  have hkey : ElementForm .octetString (0x04 :: 0x20 :: seed.toList)
      ([0x04, 0x22, 0x04, 0x20] ++ seed.toList) := by
    rw [elementForm_iff rfl (by simp [seed.length_eq])]
    simp [seed.length_eq, Tag.toByte]
  have hsplit : contentsHeader (versionByte version2) ++ seed.toList ++ rest =
      [0x02, 0x01, versionByte version2] ++ (Algorithm.ed25519Bytes ++
        (([0x04, 0x22, 0x04, 0x20] ++ seed.toList) ++ rest)) := rfl
  have hoffset : 2 + [0x02, 0x01, versionByte version2].length + Algorithm.ed25519Bytes.length +
      ([0x04, 0x22, 0x04, 0x20] ++ seed.toList).length = 48 := by
    simp [Algorithm.ed25519Bytes, seed.length_eq]
  rw [hsplit, inside, reads_isVersion2.bind_apply rfl,
    Algorithm.reads_decoder.located.bind_apply (Algorithm.form_ed25519_iff.mpr rfl),
    reads_octetString.bind_apply hkey, hoffset]

theorem alike_behindKey (version2 : Bool) (a b : Octets 32) (r : Region) :
    Alike (SeedsDiffer a b)
      (behindKey version2 ⟨Algorithm.ed25519Identifier, false⟩ (0x04 :: 0x20 :: a.toList) r)
      (behindKey version2 ⟨Algorithm.ed25519Identifier, false⟩ (0x04 :: 0x20 :: b.toList) r) := by
  refine alike_bind fun publicKey r' _ ↦ ?_
  split
  · exact .error _
  · refine alike_bind fun fuel r'' _ ↦ alike_bind fun _ r''' _ ↦ ?_
    exact .ok ⟨publicKey, rfl, rfl⟩ r'''

/-- The bytes in front of the seed, as writers of the two versions choose them: in version 2, the
public key of 32 bytes follows behind the seed and nothing else does. -/
def opening : Bool → List UInt8
  | false =>
    [0x30, 0x2e, 0x02, 0x01, 0x00, 0x30, 0x05, 0x06, 0x03, 0x2b, 0x65, 0x70, 0x04, 0x22, 0x04, 0x20]
  | true =>
    [0x30, 0x51, 0x02, 0x01, 0x01, 0x30, 0x05, 0x06, 0x03, 0x2b, 0x65, 0x70, 0x04, 0x22, 0x04, 0x20]

/-- The length of the contents that an opening announces. -/
def announcedLength (version2 : Bool) : UInt8 := if version2 then 0x51 else 0x2e

theorem opening_eq (version2 : Bool) :
    opening version2 =
      0x30 :: announcedLength version2 :: contentsHeader (versionByte version2) := by
  cases version2 <;> rfl

/-- **The first bytes of two documents are read alike**, if the documents differ in their seeds
only. -/
theorem alike_contents (version2 : Bool) (a b : Octets 32) (tail : List UInt8) (n : Nat) :
    let document (seed : Octets 32) := (opening version2 ++ seed.toList ++ tail).take (n + 2)
    Alike (SeedsDiffer a b) (contents ⟨0, 0, document a⟩) (contents ⟨0, 0, document b⟩) := by
  intro document
  have hshort : (announcedLength version2).toNat < 0x80 := by cases version2 <;> decide
  have hseed : 46 ≤ (announcedLength version2).toNat := by cases version2 <;> decide
  let front (seed : Octets 32) := contentsHeader (versionByte version2) ++ seed.toList
  have hfront : ∀ seed, (front seed).length = 46 := fun seed ↦ by
    simp [front, contentsHeader, seed.length_eq]
  -- the header of the sequence is the same, and is followed by what was not cut off
  have hsequence : ∀ seed, contents ⟨0, 0, document seed⟩ =
      within (announcedLength version2).toNat inside ⟨0, 2, (front seed ++ tail).take n⟩ := by
    intro seed
    have hheader : HeaderForm [0x30, announcedLength version2]
        ⟨.sequence, (announcedLength version2).toNat⟩ :=
      ⟨0x30, [announcedLength version2], rfl, rfl, .short _ hshort⟩
    have hdocument : document seed =
        [0x30, announcedLength version2] ++ (front seed ++ tail).take n := by
      simp only [document, opening_eq]
      rfl
    rw [hdocument, contents_eq_sequence, Der.sequence,
      (reads_headerOf .sequence).bind_apply hheader]
    rfl
  rw [hsequence, hsequence]
  refine alike_within ?_ ?_ fun hlength ↦ ?_
  · simp [hfront]
  · simp only [List.drop_take, List.drop_append, hfront,
      List.drop_eq_nil_of_le ((hfront _).trans_le hseed)]
  · -- nothing is cut off within the announced length, so the whole seed is there
    rw [List.length_take] at hlength
    have hn : (announcedLength version2).toNat ≤ n := hlength.trans (Nat.min_le_left _ _)
    have htake : ∀ seed, ((front seed ++ tail).take n).take (announcedLength version2).toNat =
        front seed ++ tail.take ((announcedLength version2).toNat - 46) := by
      intro seed
      rw [List.take_take, Nat.min_eq_left hn, List.take_append, hfront,
        List.take_of_length_le ((hfront seed).trans_le hseed)]
    rw [htake, htake, inside_eq_behindKey, inside_eq_behindKey]
    exact alike_behindKey version2 a b _

/-- What becomes of a document once the grammar has been dealt with. -/
theorem decode_of_run {document : List UInt8} {seed : Octets 32} {publicKey : Option (List UInt8)}
    (h : run contents document =
      .ok ⟨⟨Algorithm.ed25519Identifier, false⟩, 0x04 :: 0x20 :: seed.toList, publicKey⟩) :
    decode document =
      if ∀ key ∈ publicKey, key = (Ed25519.publicKeyOfSeed seed).bytes.toList then .ok seed
      else .error .badKey := by
  rw [decode, h]
  cases publicKey with
  | none => simp [seed?_eq_some_iff.mpr rfl]
  | some key => simp [seed?_eq_some_iff.mpr rfl]

/-- Two documents that are read alike are refused with the same fault, if both are refused. -/
theorem fault_eq_of_alike {a b : Octets 32} {document document' : List UInt8} {f f' : Fault}
    (h : Alike (SeedsDiffer a b) (contents ⟨0, 0, document⟩) (contents ⟨0, 0, document'⟩))
    (hf : decode document = .error f) (hf' : decode document' = .error f') : f = f' := by
  obtain ⟨e, he, he'⟩ | ⟨c, c', hc, hc', publicKey, rfl, rfl⟩ := run_of_alike h
  · rw [decode, he] at hf
    rw [decode, he'] at hf'
    rw [← Except.error.inj hf, ← Except.error.inj hf']
  · -- what is left to refuse is the public key, and for that there is one fault
    rw [decode_of_run hc] at hf
    rw [decode_of_run hc'] at hf'
    split at hf
    · cases hf
    · split at hf'
      · cases hf'
      · rw [← Except.error.inj hf, ← Except.error.inj hf']

/-- **What a fault says about a seed.**  Documents that differ in their seeds only, cut off at the
same place, are refused with the same fault, if both are refused. -/
theorem fault_eq_of_take {version2 : Bool} {a b : Octets 32} {tail : List UInt8} {n : Nat}
    {f f' : Fault} (hf : decode ((opening version2 ++ a.toList ++ tail).take n) = .error f)
    (hf' : decode ((opening version2 ++ b.toList ++ tail).take n) = .error f') : f = f' := by
  by_cases hn : 2 ≤ n
  · obtain ⟨m, rfl⟩ := Nat.exists_eq_add_of_le' hn
    exact fault_eq_of_alike (alike_contents version2 a b tail m) hf hf'
  · -- the seed is cut off
    have htake : ∀ seed : Octets 32, (opening version2 ++ seed.toList ++ tail).take n =
        (opening version2).take n := fun seed ↦ by
      have hopening : (opening version2).length = 16 := by cases version2 <;> rfl
      rw [List.append_assoc, List.take_append_of_le_length (by omega)]
    rw [htake] at hf hf'
    rw [hf] at hf'
    exact Except.error.inj hf'

end Key.PrivateDocument

/-! ## Two texts -/

theorem KeyPair.ofText_eq_error_iff_of_decode {text : String} {document : List UInt8}
    (h : Hex.decode text = .ok document) {fault : KeyFault} :
    ofText text = .error (.invalidKey fault) ↔
      ∃ f, Key.PrivateDocument.decode document = .error f ∧ fault = .privateDocument f := by
  rw [ofText, h]
  cases hdecode : Key.PrivateDocument.decode document with
  | error f => simp [hdecode, eq_comm]
  | ok seed => simp [hdecode]

theorem KeyPair.ofText_of_isHex_eq_false {text : String} (h : Hex.isHex text = false) :
    ofText text = .error (.invalidKey .privateNotHex) := by
  obtain ⟨f, hf⟩ := (Hex.isHex_eq_false_iff text).mp h
  rw [ofText, hf]

namespace Signer

/-- **A failure of signing hides the seed.**  Take two private keys that differ in their seeds only,
in either version and with anything behind the seed, cut off at the same place.  If signing refuses
both of them, whatever there is to sign, it does so with the same failure, and so in the same words.
Texts that are not hexadecimal are all refused with the same failure. -/
theorem failure_hides_seed :
    (∀ (version2 : Bool) (a b : Octets 32) (tail : List UInt8) (n : Nat)
      (text text' digest digest' : String) (fault fault' : KeyFault),
      Hex.decode text = .ok ((Key.PrivateDocument.opening version2 ++ a.toList ++ tail).take n) →
      Hex.decode text' = .ok ((Key.PrivateDocument.opening version2 ++ b.toList ++ tail).take n) →
      sign text digest = .error (.invalidKey fault) →
      sign text' digest' = .error (.invalidKey fault') → fault = fault') ∧
    ∀ text text' digest digest' : String, Hex.isHex text = false → Hex.isHex text' = false →
      ∃ fault, sign text digest = .error (.invalidKey fault) ∧
        sign text' digest' = .error (.invalidKey fault) := by
  constructor
  · intro version2 a b tail n text text' digest digest' fault fault' htext htext' hsign hsign'
    rw [sign_eq_invalidKey_iff, KeyPair.ofText_eq_error_iff_of_decode htext] at hsign
    rw [sign_eq_invalidKey_iff, KeyPair.ofText_eq_error_iff_of_decode htext'] at hsign'
    obtain ⟨f, hf, rfl⟩ := hsign
    obtain ⟨f', hf', rfl⟩ := hsign'
    rw [Key.PrivateDocument.fault_eq_of_take hf hf']
  · intro text text' digest digest' htext htext'
    refine ⟨.privateNotHex, ?_, ?_⟩
    · exact sign_eq_invalidKey_iff.mpr (KeyPair.ofText_of_isHex_eq_false htext)
    · exact sign_eq_invalidKey_iff.mpr (KeyPair.ofText_of_isHex_eq_false htext')

/-- Two documents of version 1, of which 40 bytes are left, and two texts that are not
hexadecimal. -/
theorem failure_hides_seed_cutOff :
    let seed (value : Nat) := Octets.ofNat 32 value
    let text (value : Nat) :=
      Hex.encode ((Key.PrivateDocument.opening false ++ (seed value).toList ++ []).take 40)
    let fault : KeyFault := .privateDocument (.der ⟨.incomplete 48 40, some 2⟩)
    sign (text 1) "" = .error (.invalidKey fault) ∧
      sign (text 2) "00" = .error (.invalidKey fault) ∧
      ∃ fault', sign "seed" "" = .error (.invalidKey fault') ∧
        sign "0" "" = .error (.invalidKey fault') := by
  intro seed text fault
  have hfirst : sign (text 1) "" = .error (.invalidKey fault) := by decide +kernel
  have hsecond : ∃ fault', sign (text 2) "00" = .error (.invalidKey fault') :=
    ⟨fault, by decide +kernel⟩
  obtain ⟨fault', hfault'⟩ := hsecond
  have hsame : fault = fault' :=
    failure_hides_seed.1 false (seed 1) (seed 2) [] 40 (text 1) (text 2) "" "00" fault fault'
      (Hex.decode_encode _) (Hex.decode_encode _) hfirst hfault'
  exact ⟨hfirst, hsame ▸ hfault',
    failure_hides_seed.2 "seed" "0" "" "" (by decide +kernel) (by decide +kernel)⟩

end Signer

end HexSigner
