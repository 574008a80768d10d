import HexSigner.Proofs.Der.Locality
import HexSigner.Proofs.Key.Export
import HexSigner.Proofs.Key.Secrecy

/-!
# Seeds without a document

Whoever passes a seed where a private key is expected, without a document around it, is refused: 32
bytes are too few for such a document.  But the seed is then read as if it were one, and the failure
says what kind of document it is not.  So it tells something of the seed, and two seeds need not be
refused in the same words (`bareSeed_failures_differ`).

What it tells is what the reading came across before it stopped.  The bytes behind that place have
no influence on the failure, because the reading of a document is local (`local_contents`), and that
is nearly all of the seed: unless the seed happens to begin with the header of a sequence that fits
into it, the reading stops in what it takes for a header, which is six bytes at most
(`contents_of_not_beginsSequence`).  The first byte, on the other hand, can be told from the failure
as a rule (`decode_of_beginsElse`).  The main result is `bareSeed_failure`.
-/

set_option autoImplicit false

namespace HexSigner

open Der Decoder

/-! ## Reading a document is local -/

section

variable {ahead : Nat}

theorem Key.Algorithm.local_parameters (h : 0 < ahead) : Local ahead parameters := by
  refine (local_peek? h).bind fun next ↦ ?_
  split
  · exact local_pure false
  · exact (local_tagOfByte _).bind fun _ ↦ local_any.bind fun _ ↦ local_pure true

theorem Key.Algorithm.local_decoder (h : 0 < ahead) : Local ahead decoder :=
  Local.sequence <| local_objectIdentifier.located.bind fun identifier ↦
    (local_parameters h).located.bind fun hasParameters ↦
      local_pure (Algorithm.mk identifier hasParameters)

namespace Key.PrivateDocument

theorem local_isVersion2 : Local ahead isVersion2 := by
  refine local_smallInteger.bind fun n ↦ ?_
  split
  · exact local_pure false
  · exact local_pure true
  · exact local_fail _

theorem local_publicKey (h : 0 < ahead) : Local ahead publicKey := by
  refine (local_bitStringField h publicKeyField).bind fun found ↦ ?_
  split
  · exact local_pure none
  · exact local_fail _
  · exact local_pure _

/-- **What a private key document is read as depends on the bytes up to the place where the reading
stops, and on one byte more.** -/
theorem local_contents (h : 0 < ahead) : Local ahead contents :=
  Local.sequence <| local_isVersion2.bind fun _ ↦
    (Algorithm.local_decoder h).located.bind fun algorithm ↦ local_octetString.bind fun key ↦
      (local_publicKey h).bind fun publicKey ↦ (local_failHere _).ite <|
        local_remaining.bind fun fuel ↦ (local_fields fuel).bind fun _ ↦
          local_pure (Contents.mk algorithm key publicKey)

/-! ## Documents that do not begin like one -/

/-- The first two bytes are the header of a sequence, and the other bytes can hold it. -/
def BeginsSequence (bytes : List UInt8) : Prop :=
  ∃ (length : UInt8) (rest : List UInt8),
    bytes = 0x30 :: length :: rest ∧ length.toNat ≤ rest.length

/-- A header of a sequence that fits into a short document is made of two bytes. -/
theorem beginsSequence_of_headerForm {front rest : List UInt8} {n : Nat}
    (h : HeaderForm front ⟨.sequence, n⟩) (hlength : (front ++ rest).length ≤ 0x80)
    (hn : n ≤ rest.length) : BeginsSequence (front ++ rest) := by
  obtain ⟨b, length, rfl, htag, hform⟩ := h
  obtain rfl : (0x30 : UInt8) = b := Tag.toByte_of_ofByte htag
  cases hform with
  | short l hl => exact ⟨l, rest, rfl, hn⟩
  | long mark digits hlong =>
    -- a long form announces more than there is
    have hfits : bigEndian digits ≤ rest.length := hn
    simp only [List.length_append, List.length_cons] at hlength
    omega

theorem contents_eq (r : Region) :
    contents r = headerOf .sequence r >>= fun p ↦ within p.1 inside p.2 := rfl

/-- **A short document that does not begin like one is refused within its first six bytes**, and the
bytes behind have no influence on how. -/
theorem contents_of_not_beginsSequence {s : List UInt8} (hlength : s.length ≤ 0x80)
    (h : ¬BeginsSequence s) :
    ∃ n ≤ 6, ∃ fault, ∀ t, AgreeTo n s t → contents ⟨0, 0, t⟩ = .error ⟨fault, n⟩ := by
  have hlocal : Local 0 (headerOf .sequence) := local_headerOf .sequence
  obtain ⟨n, outcome, hheader⟩ := hlocal 0 0 s
  have hn : n ≤ 6 := by
    have hstop := stopsWithin_headerOf .sequence ⟨0, 0, s⟩
    rwa [hheader s (.refl _ _), place_stopped, Nat.zero_add, Nat.zero_add] at hstop
  cases outcome with
  | error fault =>
    refine ⟨n, hn, fault, fun t ht ↦ ?_⟩
    rw [contents_eq, hheader t ht, stopped, Nat.zero_add]
    rfl
  | ok length =>
    obtain ⟨front, htook, hform⟩ := (reads_headerOf .sequence _ _ _).mp (hheader s (.refl _ _))
    have hs : s = front ++ s.drop n := htook.bytes
    have hlong : (s.drop n).length < length := by
      by_contra hfits
      refine h ?_
      rw [hs] at hlength ⊢
      exact beginsSequence_of_headerForm hform hlength (Nat.le_of_not_lt hfits)
    refine ⟨n, hn, shortage length (0 + n) (s.drop n).length, fun t ht ↦ ?_⟩
    have hleft : (s.drop n).length = (t.drop n).length := by
      rw [List.length_drop, List.length_drop, ht.length_eq]
    rw [contents_eq, hheader t ht, stopped, hleft, Nat.zero_add]
    rw [hleft] at hlong
    exact within_eq_of_lt hlong

/-! ## What becomes of them -/

/-- Documents that agree up to the place where the reading of one stops, and in one byte more, are
both accepted or refused in the same way. -/
theorem decode_eq_of_agreeTo {s t : List UInt8} (h : AgreeTo (reach contents s + 1) s t) :
    decode s = decode t := by
  rw [decode, decode, (local_contents Nat.one_pos).run_eq h]

theorem decode_eq_of_not_beginsSequence {s : List UInt8} (hlength : s.length ≤ 0x80)
    (h : ¬BeginsSequence s) :
    reach contents s ≤ 6 ∧ ∀ t, AgreeTo (reach contents s) s t → decode s = decode t := by
  obtain ⟨n, hn, fault, hcontents⟩ := contents_of_not_beginsSequence hlength h
  have hs := hcontents s (.refl n s)
  have hreach : reach contents s = n := by rw [reach, hs, place]
  rw [hreach]
  refine ⟨hn, fun t ht ↦ ?_⟩
  rw [decode, decode, run, run, hs, hcontents t ht]

/-! ## Documents that begin with another element -/

/-- The first byte is a tag by itself, though not that of a sequence, or a byte that is no tag at
all, and a length of one byte follows. -/
def BeginsElse (first : UInt8) (bytes : List UInt8) : Prop :=
  first ≠ 0x30 ∧ first.toNat % 32 ≠ 31 ∧
    ∃ (length : UInt8) (rest : List UInt8), bytes = first :: length :: rest ∧ length.toNat < 0x80

/-- **A document that begins with something else is refused with a failure that quotes its first
byte.** -/
theorem decode_of_beginsElse {first : UInt8} {document : List UInt8}
    (h : BeginsElse first document) :
    decode document = .error (.der ⟨wrongTag .sequence first, none⟩) := by
  obtain ⟨hne, -, length, rest, rfl, hlength⟩ := h
  obtain ⟨reached, hheader⟩ := headerOf_eq_wrongTag .sequence hne hlength 0 0 rest
  rw [decode, run, contents_eq, hheader]
  rfl

/-- The shortest document takes 48 bytes. -/
theorem exists_fault_of_length_lt {document : List UInt8} (h : document.length < 48) :
    ∃ fault, decode document = .error fault := by
  cases hdecode : decode document with
  | error fault => exact ⟨fault, rfl⟩
  | ok seed =>
    obtain ⟨publicKey, rest, ⟨front, rfl, hheader⟩, -⟩ := decode_eq_ok_iff.mp hdecode
    obtain ⟨b, length, rfl, -, hlength⟩ := hheader
    have hne : length ≠ [] := by
      rintro rfl
      cases hlength
    have hpos := List.length_pos_iff.mpr hne
    rw [List.length_append, List.length_cons, length_contents] at h
    omega

end Key.PrivateDocument

end

/-! ## Signing with a bare seed -/

namespace Signer

open Key.PrivateDocument

/-- How many bytes of a seed are read, if it stands where a document is expected, before the reading
stops. -/
def bytesRead (seed : Octets 32) : Nat := reach contents seed.toList

theorem sign_encode_eq_error {document : List UInt8} {fault : Key.PrivateDocument.Fault}
    (h : decode document = .error fault) (digest : String) :
    sign (Hex.encode document) digest = .error (.invalidKey (.privateDocument fault)) :=
  sign_eq_invalidKey_iff.mpr
    ((KeyPair.ofText_eq_error_iff_of_decode (Hex.decode_encode document)).mpr ⟨fault, h, rfl⟩)

/-- Seeds that are read as the same document are refused with the same failure. -/
theorem sign_bareSeed_congr {a b : Octets 32} (h : decode a.toList = decode b.toList)
    (digest digest' : String) :
    sign (Hex.encode a.toList) digest = sign (Hex.encode b.toList) digest' := by
  obtain ⟨fault, hfault⟩ :=
    exists_fault_of_length_lt (a.length_eq.trans_lt (by decide : 32 < 48))
  rw [sign_encode_eq_error hfault, sign_encode_eq_error (h.symm.trans hfault)]

theorem agreeTo_of_take_eq {a b : Octets 32} {n : Nat} (h : a.toList.take n = b.toList.take n) :
    AgreeTo n a.toList b.toList :=
  ⟨a.length_eq.trans b.length_eq.symm, h⟩

/-- Two seeds that begin with something else are told apart by their first bytes. -/
theorem sign_bareSeed_inj {a b : Octets 32} {first first' : UInt8}
    (ha : BeginsElse first a.toList) (hb : BeginsElse first' b.toList) (digest digest' : String) :
    sign (Hex.encode a.toList) digest = sign (Hex.encode b.toList) digest' ↔ first = first' := by
  rw [sign_encode_eq_error (decode_of_beginsElse ha), sign_encode_eq_error (decode_of_beginsElse hb),
    ← wrongTag_inj .sequence ha.2.1 hb.2.1]
  simp only [Except.error.injEq, Failure.invalidKey.injEq, KeyFault.privateDocument.injEq,
    Key.PrivateDocument.Fault.der.injEq, Der.Fault.mk.injEq, and_true]

/-- **What the failure tells of a bare seed.**  A seed without a document around it is refused as a
key, whatever there is to sign.

* A seed that agrees with it up to the place where the reading stops, and in one byte more, is
  refused with the same failure: nothing that comes later has an influence on it.
* Unless the seed begins with the header of a sequence of at most 30 bytes, the reading stops within
  the first six bytes, and then agreeing up to that place is enough.
* If the seed begins with something else than a sequence, and a length of one byte follows, then the
  failure tells the first byte and nothing else: among such seeds, just those that begin with the
  same byte are refused with the same failure. -/
theorem bareSeed_failure (a b : Octets 32) (digest digest' : String) :
    (∃ fault, sign (Hex.encode a.toList) digest = .error (.invalidKey fault)) ∧
    (a.toList.take (bytesRead a + 1) = b.toList.take (bytesRead a + 1) →
      sign (Hex.encode a.toList) digest = sign (Hex.encode b.toList) digest') ∧
    (¬BeginsSequence a.toList → bytesRead a ≤ 6 ∧
      (a.toList.take (bytesRead a) = b.toList.take (bytesRead a) →
        sign (Hex.encode a.toList) digest = sign (Hex.encode b.toList) digest')) ∧
    ∀ first first', BeginsElse first a.toList → BeginsElse first' b.toList →
      (sign (Hex.encode a.toList) digest = sign (Hex.encode b.toList) digest' ↔
        first = first') := by
  have hshort : a.toList.length ≤ 0x80 := a.length_eq.trans_le (by decide)
  refine ⟨?_, fun h ↦ ?_, fun h ↦ ?_, fun first first' ha hb ↦ ?_⟩
  · obtain ⟨fault, hfault⟩ :=
      exists_fault_of_length_lt (a.length_eq.trans_lt (by decide : 32 < 48))
    exact ⟨_, sign_encode_eq_error hfault digest⟩
  · exact sign_bareSeed_congr (decode_eq_of_agreeTo (agreeTo_of_take_eq h)) digest digest'
  · obtain ⟨hread, hsame⟩ := decode_eq_of_not_beginsSequence hshort h
    exact ⟨hread, fun htake ↦
      sign_bareSeed_congr (hsame b.toList (agreeTo_of_take_eq htake)) digest digest'⟩
  · exact sign_bareSeed_inj ha hb digest digest'

/-- The seeds `04 01 00 ..` and `04 01 01 ..` are refused alike, because the reading stops after two
bytes.  The seeds `30 1e 05 00 00 00 ..` and `30 1e 05 00 00 01 ..` begin with the header of a
sequence, and are refused alike, too: here the reading stops after four bytes.  The seed `0b 00 ..`
has another first byte than `04 01 00 ..`, and is refused in another way. -/
theorem bareSeed_failure_laterBytes :
    let a := Octets.ofNat 32 0x0104
    let b := Octets.ofNat 32 0x010104
    let c := Octets.ofNat 32 0x0b
    let s := Octets.ofNat 32 0x051e30
    let t := Octets.ofNat 32 0x010000051e30
    (bytesRead a = 2 ∧ ¬BeginsSequence a.toList ∧
      sign (Hex.encode a.toList) "" = sign (Hex.encode b.toList) "") ∧
    (bytesRead s = 4 ∧ BeginsSequence s.toList ∧
      sign (Hex.encode s.toList) "" = sign (Hex.encode t.toList) "") ∧
    (BeginsElse 0x04 a.toList ∧ BeginsElse 0x0b c.toList ∧
      sign (Hex.encode a.toList) "" ≠ sign (Hex.encode c.toList) "") := by
  intro a b c s t
  have ha : a.toList = 0x04 :: 0x01 :: List.replicate 30 0 := by decide +kernel
  have hc : c.toList = 0x0b :: 0x00 :: List.replicate 30 0 := by decide +kernel
  have hs : s.toList = 0x30 :: 0x1e :: 0x05 :: List.replicate 29 0 := by decide +kernel
  have hreada : bytesRead a = 2 := by decide +kernel
  have hreads : bytesRead s = 4 := by decide +kernel
  have hnot : ¬BeginsSequence a.toList := by
    rintro ⟨length, rest, h, -⟩
    rw [ha] at h
    exact absurd (List.cons.inj h).1 (by decide)
  have helsea : BeginsElse 0x04 a.toList := ⟨by decide, by decide, 0x01, _, ha, by decide⟩
  have helsec : BeginsElse 0x0b c.toList := ⟨by decide, by decide, 0x00, _, hc, by decide⟩
  obtain ⟨-, -, hheader, -⟩ := bareSeed_failure a b "" ""
  obtain ⟨-, hagree, -, -⟩ := bareSeed_failure s t "" ""
  obtain ⟨-, -, -, hfirst⟩ := bareSeed_failure a c "" ""
  refine ⟨⟨hreada, hnot, (hheader hnot).2 ?_⟩, ⟨hreads, ⟨_, _, hs, by decide⟩, hagree ?_⟩,
    helsea, helsec, fun h ↦ absurd ((hfirst _ _ helsea helsec).mp h) (by decide)⟩
  · rw [hreada]
    decide +kernel
  · rw [hreads]
    decide +kernel

/-- The seeds `0b 00 ..` and `0d 00 ..` are refused in different words, which quote their first
bytes. -/
theorem bareSeed_failures_differ :
    let a := Octets.ofNat 32 0x0b
    let b := Octets.ofNat 32 0x0d
    ∃ failure failure', sign (Hex.encode a.toList) "" = .error failure ∧
      sign (Hex.encode b.toList) "" = .error failure' ∧ failure ≠ failure' ∧
      failure.message = "Invalid key format: not a PKCS#8 Ed25519 private key: " ++
        "PKCS#8 ASN.1 error: unknown/unsupported ASN.1 DER tag: 0x0b" ∧
      failure'.message = "Invalid key format: not a PKCS#8 Ed25519 private key: " ++
        "PKCS#8 ASN.1 error: unknown/unsupported ASN.1 DER tag: 0x0d" := by
  intro a b
  have ha : BeginsElse 0x0b a.toList :=
    ⟨by decide, by decide, 0x00, List.replicate 30 0, by decide +kernel, by decide⟩
  have hb : BeginsElse 0x0d b.toList :=
    ⟨by decide, by decide, 0x00, List.replicate 30 0, by decide +kernel, by decide⟩
  exact ⟨_, _, sign_encode_eq_error (decode_of_beginsElse ha) "",
    sign_encode_eq_error (decode_of_beginsElse hb) "", by decide, rfl, rfl⟩

end Signer

end HexSigner
