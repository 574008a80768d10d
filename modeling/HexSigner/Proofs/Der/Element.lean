import HexSigner.Der.Element
import HexSigner.Proofs.Der.Decoder
import Mathlib.Data.Fintype.Basic

/-!
# The grammar of DER elements

The forms of tags, lengths and elements as relations between bytes and what they stand for, and the
proof that the decoders read just these forms.

An element is a tag, the length of its contents and its contents (`ElementForm`).  A value has one
form only: a tag has one byte (`Tag.ofByte_eq_ok_iff`), and a length below 128 has one byte as well
(`lengthForm_iff`), so an element with short contents is its tag, one byte for the length, and the
contents (`elementForm_iff`).

Of the failures there is one for which it is said here what it is: the one at another tag than the
expected one (`headerOf_eq_wrongTag`).
-/

set_option autoImplicit false

namespace HexSigner.Der

/-! ## Tags -/

namespace Tag

/-- Whether reading a byte as a tag and writing the tag gives the byte back. -/
def roundTrips (b : UInt8) : Bool :=
  match ofByte b with
  | .ok t => t.toByte == b
  | .error _ => true

theorem roundTrips_all (b : UInt8) : roundTrips b = true := by
  have h : ∀ n : Fin 256, roundTrips (UInt8.ofNat n) = true := by decide +kernel
  have hb := h ⟨b.toNat, b.toNat_lt⟩
  rwa [UInt8.ofNat_toNat] at hb

theorem toByte_of_ofByte {b : UInt8} {t : Tag} (h : ofByte b = .ok t) : t.toByte = b := by
  have hb := roundTrips_all b
  rw [roundTrips, h] at hb
  exact eq_of_beq hb

/-- **A tag has one byte.** -/
theorem ofByte_eq_ok_iff {b : UInt8} {t : Tag} (ht : ofByte t.toByte = .ok t) :
    ofByte b = .ok t ↔ b = t.toByte :=
  ⟨fun h ↦ (toByte_of_ofByte h).symm, fun h ↦ h ▸ ht⟩

end Tag

/-! ## The forms -/

/-- The shortest form of a length: one byte below 128, or a mark that says how many digits
follow. -/
inductive LengthForm : List UInt8 → Nat → Prop
  | short (b : UInt8) (h : b.toNat < 0x80) : LengthForm [b] b.toNat
  | long (mark : UInt8) (digits : List UInt8) (h : 0x80 ≤ bigEndian digits)
      (hmax : bigEndian digits ≤ maxLength) (hmark : lengthMark (bigEndian digits) = mark.toNat)
      (hlen : digits.length = mark.toNat - 0x80) : LengthForm (mark :: digits) (bigEndian digits)

/-- A tag and a length. -/
def HeaderForm (bytes : List UInt8) (h : Header) : Prop :=
  ∃ b length, bytes = b :: length ∧ Tag.ofByte b = .ok h.tag ∧ LengthForm length h.length

/-- An element: a header that announces just the contents, and the contents. -/
def ElementForm (tag : Tag) (contents bytes : List UInt8) : Prop :=
  ∃ front, bytes = front ++ contents ∧ HeaderForm front ⟨tag, contents.length⟩

/-- The contents of a bit string: how many bits of the last byte are unused, and the bytes.  The
value is the bytes if no bits are unused. -/
def BitStringForm (bytes : List UInt8) (value : Option (List UInt8)) : Prop :=
  ∃ unused contents, bytes = unused :: contents ∧
    ¬(7 < unused ∨ (unused ≠ 0 ∧ contents.isEmpty)) ∧
    (if unused = 0 then some contents else none) = value

/-- The shortest form of a number below 256: a byte, behind a zero if its highest bit is set. -/
def SmallIntegerForm (bytes : List UInt8) (n : Nat) : Prop :=
  ∃ b, (bytes = [b] ∧ b < 0x80 ∨ bytes = [0, b] ∧ ¬b < 0x80) ∧ b.toNat = n

theorem lengthForm_iff {bytes : List UInt8} {n : Nat} (hn : n < 0x80) :
    LengthForm bytes n ↔ bytes = [UInt8.ofNat n] := by
  constructor
  · intro h
    cases h with
    | short b h => rw [UInt8.ofNat_toNat]
    | long mark digits h => omega
  · rintro rfl
    have hto : (UInt8.ofNat n).toNat = n := by
      rw [UInt8.toNat_ofNat']
      omega
    have h := LengthForm.short (UInt8.ofNat n) (by omega)
    rwa [hto] at h

/-- **Short contents have one element.** -/
theorem elementForm_iff {tag : Tag} {contents bytes : List UInt8}
    (htag : Tag.ofByte tag.toByte = .ok tag) (hlen : contents.length < 0x80) :
    ElementForm tag contents bytes ↔
      bytes = tag.toByte :: UInt8.ofNat contents.length :: contents := by
  simp only [ElementForm, HeaderForm, Tag.ofByte_eq_ok_iff htag, lengthForm_iff hlen]
  constructor
  · rintro ⟨_, rfl, _, _, rfl, rfl, rfl⟩
    rfl
  · rintro rfl
    exact ⟨[tag.toByte, UInt8.ofNat contents.length], rfl, _, _, rfl, rfl, rfl⟩

theorem smallIntegerForm_iff {bytes : List UInt8} {n : Nat} (hn : n < 0x80) :
    SmallIntegerForm bytes n ↔ bytes = [UInt8.ofNat n] := by
  constructor
  · rintro ⟨b, (⟨rfl, -⟩ | ⟨-, hb⟩), rfl⟩
    · rw [UInt8.ofNat_toNat]
    · exact absurd (UInt8.lt_iff_toNat_lt.mpr hn) hb
  · rintro rfl
    have hto : (UInt8.ofNat n).toNat = n := by
      rw [UInt8.toNat_ofNat']
      omega
    refine ⟨UInt8.ofNat n, Or.inl ⟨rfl, ?_⟩, hto⟩
    rw [UInt8.lt_iff_toNat_lt, hto]
    exact hn

/-- A bit string without unused bits is a zero and the bytes. -/
theorem bitStringForm_some_iff {bytes key : List UInt8} :
    BitStringForm bytes (some key) ↔ bytes = 0 :: key := by
  constructor
  · rintro ⟨unused, contents, rfl, -, hvalue⟩
    split at hvalue
    · rename_i h
      rw [h, Option.some_inj.mp hvalue]
    · cases hvalue
  · rintro rfl
    exact ⟨0, key, rfl, by simp, by simp⟩

/-! ## The decoders read the forms -/

open Decoder

variable {α : Type}

theorem reads_tagOfByte (b : UInt8) :
    Reads (tagOfByte b) fun t tag ↦ t = [] ∧ Tag.ofByte b = .ok tag := by
  rw [tagOfByte]
  split
  · rename_i tag h
    exact (reads_pure tag).congr fun t a ↦ by rw [h, Except.ok.injEq]
  · rename_i h
    exact (reads_fail _).congr fun t a ↦ by simp [h]
  · rename_i h
    exact (reads_fail _).congr fun t a ↦ by simp [h]

theorem reads_eachByte (n : Nat) : Reads (eachByte n) fun t a ↦ t.length = n ∧ a = t := by
  induction n with
  | zero =>
    refine (reads_pure []).congr fun t a ↦ ?_
    rw [List.length_eq_zero_iff]
    exact ⟨fun ⟨ht, ha⟩ ↦ ⟨ht, by rw [ht, ha]⟩, fun ⟨ht, ha⟩ ↦ ⟨ht, by rw [ha, ht]⟩⟩
  | succ n ih =>
    refine (reads_byte.bind fun b ↦ ih.bind fun rest ↦ reads_pure (b :: rest)).congr fun t a ↦ ?_
    constructor
    · rintro ⟨_, _, b, rfl, rfl, rest, _, _, rfl, ⟨rfl, rfl⟩, rfl, rfl⟩
      simp
    · rintro ⟨hlen, rfl⟩
      cases a with
      | nil => simp at hlen
      | cons b rest =>
        rw [List.length_cons, Nat.add_right_cancel_iff] at hlen
        exact ⟨[b], rest, b, rfl, rfl, rest, [], rest, by simp, ⟨hlen, rfl⟩, rfl, rfl⟩

/-- The mark of a length announces one to four digits. -/
theorem lengthMark_bounds (n : Nat) : 0x80 < lengthMark n ∧ lengthMark n ≤ 0x84 := by
  rw [lengthMark]
  split <;> [skip; split <;> [skip; split]] <;> omega

theorem reads_length (tag : Tag) : Reads (length tag) LengthForm := by
  -- the short form first; the long form is behind two conditions on the mark and two on the digits
  refine (reads_byte.bind fun first ↦ Reads.ite (fun _ ↦ reads_pure first.toNat) fun _ ↦
    Reads.refuse fun _ ↦ Reads.accept fun _ ↦ (reads_eachByte (first.toNat - 0x80)).bind
      fun digits ↦ Reads.refuse fun _ ↦ Reads.accept fun _ ↦
        reads_pure (bigEndian digits)).congr fun t n ↦ ?_
  constructor
  · rintro ⟨_, _, first, rfl, rfl, (⟨hshort, rfl, rfl⟩ | ⟨-, -, -, _, _, digits, rfl, ⟨hlen, rfl⟩,
      hmax, hform, rfl, rfl⟩)⟩
    · exact .short first hshort
    · rw [List.append_nil]
      exact .long first digits hform.1 (Nat.le_of_not_lt hmax) hform.2 hlen
  · intro hform
    cases hform with
    | short b h => exact ⟨[b], [], b, rfl, rfl, Or.inl ⟨h, rfl, rfl⟩⟩
    | long mark digits h hmax hmark hlen =>
      have hbounds := lengthMark_bounds (bigEndian digits)
      rw [hmark] at hbounds
      exact ⟨[mark], digits, mark, rfl, rfl, Or.inr ⟨by omega, by omega, hbounds.2, digits, [],
        digits, (List.append_nil digits).symm, ⟨hlen, rfl⟩, Nat.not_lt.mpr hmax, ⟨h, hmark⟩, rfl,
        rfl⟩⟩

theorem reads_header : Reads header HeaderForm := by
  refine (reads_byte.bind fun b ↦ (reads_tagOfByte b).bind fun tag ↦
    (reads_length tag).bind fun n ↦ reads_pure (Header.mk tag n)).congr fun t h ↦ ?_
  constructor
  · rintro ⟨_, _, b, rfl, rfl, _, _, tag, rfl, ⟨rfl, htag⟩, l, _, n, rfl, hlen, rfl, rfl⟩
    exact ⟨b, l, by simp, htag, hlen⟩
  · rintro ⟨b, l, rfl, htag, hlen⟩
    exact ⟨[b], l, b, rfl, rfl, [], l, h.tag, rfl, ⟨rfl, htag⟩, l, [], h.length, by simp, hlen, rfl,
      rfl⟩

theorem reads_headerOf (tag : Tag) :
    Reads (headerOf tag) fun t n ↦ HeaderForm t ⟨tag, n⟩ := by
  refine (reads_header.bind fun h ↦ Reads.accept fun _ ↦ reads_pure h.length).congr fun t n ↦ ?_
  constructor
  · rintro ⟨front, _, h, rfl, hform, rfl, rfl, rfl⟩
    rw [List.append_nil]
    exact hform
  · intro hform
    exact ⟨t, [], ⟨tag, n⟩, (List.append_nil t).symm, hform, rfl, rfl, rfl⟩

theorem reads_any : Reads any fun t a ↦ ElementForm a.1 a.2 t := by
  refine (reads_header.bind fun h ↦ (reads_bytes h.length).bind fun contents ↦
    reads_pure (h.tag, contents)).congr fun t a ↦ ?_
  constructor
  · rintro ⟨front, _, ⟨tag, n⟩, rfl, hform, contents, _, _, rfl, ⟨rfl, rfl⟩, rfl, rfl⟩
    exact ⟨front, by simp, hform⟩
  · rintro ⟨front, rfl, hform⟩
    exact ⟨front, a.2, ⟨a.1, a.2.length⟩, rfl, hform, a.2, [], a.2, by simp, ⟨rfl, rfl⟩, rfl, rfl⟩

/-- A header with an expected tag, and then just the announced contents. -/
theorem reads_headerOf_bind {tag : Tag} {f : Nat → Decoder α} {G : List UInt8 → α → Prop}
    (hf : ∀ n, Reads (f n) fun t a ↦ t.length = n ∧ G t a) :
    Reads (headerOf tag >>= f) fun t a ↦ ∃ contents, ElementForm tag contents t ∧ G contents a := by
  refine ((reads_headerOf tag).bind hf).congr fun t a ↦ ?_
  constructor
  · rintro ⟨front, contents, _, rfl, hform, rfl, hG⟩
    exact ⟨contents, ⟨front, rfl, hform⟩, hG⟩
  · rintro ⟨contents, ⟨front, rfl, hform⟩, hG⟩
    exact ⟨front, contents, _, rfl, hform, rfl, hG⟩

theorem Decoder.ReadsWhole.sequence {d : Decoder α} {G : List UInt8 → α → Prop}
    (h : ReadsWhole d G) :
    Reads (sequence d) fun t a ↦ ∃ contents, ElementForm .sequence contents t ∧ G contents a :=
  reads_headerOf_bind fun n ↦ h.within n

theorem reads_objectIdentifier :
    Reads objectIdentifier fun t a ↦
      ElementForm .objectIdentifier a t ∧ a.length ≤ maxIdentifierLength ∧
        isIdentifier a = true := by
  refine Reads.congr (reads_headerOf_bind (G := fun t a ↦ t.length ≤ maxIdentifierLength ∧
    isIdentifier t = true ∧ a = t) fun n ↦ ?_) fun t a ↦ ?_
  · refine (Reads.refuse fun _ ↦ (reads_bytes n).bind fun contents ↦ Reads.accept fun _ ↦
      reads_pure contents).congr fun t a ↦ ?_
    constructor
    · rintro ⟨hn, _, _, contents, rfl, ⟨rfl, rfl⟩, hid, rfl, rfl⟩
      rw [List.append_nil]
      exact ⟨rfl, Nat.le_of_not_lt hn, hid, rfl⟩
    · rintro ⟨rfl, hlen, hid, rfl⟩
      exact ⟨Nat.not_lt.mpr hlen, a, [], a, (List.append_nil a).symm, ⟨rfl, rfl⟩, hid, rfl, rfl⟩
  · constructor
    · rintro ⟨_, hform, hlen, hid, rfl⟩
      exact ⟨hform, hlen, hid⟩
    · rintro ⟨hform, hlen, hid⟩
      exact ⟨a, hform, hlen, hid, rfl⟩

theorem reads_bitStringContents (n : Nat) :
    Reads (bitStringContents n) fun t a ↦ t.length = n ∧ BitStringForm t a := by
  refine (Reads.refuse fun _ ↦ reads_byte.bind fun unused ↦ (reads_bytes (n - 1)).bind
    fun contents ↦ Reads.refuse fun _ ↦
      reads_pure (if unused = 0 then some contents else none)).congr fun t a ↦ ?_
  constructor
  · rintro ⟨hn, _, _, unused, rfl, rfl, _, _, contents, rfl, ⟨hlen, rfl⟩, hok, rfl, hvalue⟩
    refine ⟨?_, unused, contents, by simp, hok, hvalue⟩
    rw [List.append_nil, List.length_append, List.length_singleton]
    omega
  · rintro ⟨rfl, unused, contents, rfl, hok, hvalue⟩
    exact ⟨by simp, [unused], contents, unused, rfl, rfl, contents, [], contents, by simp,
      ⟨by simp, rfl⟩, hok, rfl, hvalue⟩

theorem reads_bitString :
    Reads bitString fun t a ↦ ∃ contents, ElementForm .bitString contents t ∧
      BitStringForm contents a :=
  reads_headerOf_bind reads_bitStringContents

/-- Bytes are one element at most. -/
theorem ElementForm.contents_unique {tag : Tag} {contents contents' bytes : List UInt8}
    (h : ElementForm tag contents bytes) (h' : ElementForm tag contents' bytes) :
    contents = contents' := by
  have hpair : (tag, contents) = (tag, contents') := reads_any.readsWhole.unique h h'
  exact (Prod.mk.inj hpair).2

/-- **No element is the beginning of another**: its length accounts for all of its bytes. -/
theorem ElementForm.eq_nil_of_append {tag : Tag} {contents contents' bytes rest : List UInt8}
    (h : ElementForm tag contents bytes) (h' : ElementForm tag contents' (bytes ++ rest)) :
    rest = [] :=
  (reads_any.unique_of_append (a := (tag, contents)) (b := (tag, contents')) h h').2

theorem reads_octetString : Reads octetString fun t a ↦ ElementForm .octetString a t := by
  refine (reads_headerOf_bind (G := fun t a ↦ a = t) fun n ↦ reads_bytes n).congr fun t a ↦ ?_
  exact ⟨fun ⟨_, hform, h⟩ ↦ h ▸ hform, fun hform ↦ ⟨a, hform, rfl⟩⟩

theorem reads_smallInteger :
    Reads smallInteger fun t n ↦ ∃ contents, ElementForm .integer contents t ∧
      SmallIntegerForm contents n := by
  refine reads_headerOf_bind fun length ↦ (Reads.refuse fun _ ↦ (reads_bytes length).bind
    (H := fun contents t n ↦
      ∃ b rest, (contents = [b] ∧ b < 0x80 ∨ contents = 0 :: b :: rest ∧ ¬b < 0x80) ∧
        t = [] ∧ b.toNat = n) fun contents ↦ ?_).congr fun t n ↦ ?_
  · -- which of the forms it is shows once the contents are read
    split
    · exact (reads_fail _).congr fun t n ↦ by simp
    · rename_i b
      refine (Reads.accept fun _ ↦ reads_pure b.toNat).congr fun t n ↦ ?_
      simp
    · rename_i b rest
      refine (Reads.refuse fun _ ↦ reads_pure b.toNat).congr fun t n ↦ ?_
      simp
    · rename_i b rest hne hzero
      refine (Reads.ite (fun _ ↦ reads_fail _) fun _ ↦ reads_fail _).congr fun t n ↦ ?_
      simp only [and_false, or_false, false_iff]
      rintro ⟨b', rest', (⟨h, -⟩ | ⟨h, -⟩), -⟩
      · exact hne (List.cons.inj h).2
      · exact hzero b' rest' (List.cons.inj h).1 (List.cons.inj h).2
  · constructor
    · rintro ⟨hlen, contents, _, _, rfl, ⟨rfl, rfl⟩, b, rest, hform, rfl, rfl⟩
      rw [List.append_nil]
      refine ⟨rfl, b, hform.imp id fun ⟨h, hb⟩ ↦ ⟨?_, hb⟩, rfl⟩
      -- two bytes are all there is
      rw [h, List.length_cons, List.length_cons] at hlen
      have hrest : rest = [] := List.length_eq_zero_iff.mp (by omega)
      rw [h, hrest]
    · rintro ⟨rfl, b, hform, rfl⟩
      refine ⟨?_, t, [], t, (List.append_nil t).symm, ⟨rfl, rfl⟩, b, [], hform, rfl, rfl⟩
      obtain ⟨rfl, -⟩ | ⟨rfl, -⟩ := hform <;> simp

/-! ## Another tag than the expected one -/

/-- The cause of the failure if a byte stands in the place of an expected tag. -/
def wrongTag (expected : Tag) (first : UInt8) : Cause :=
  match Tag.ofByte first with
  | .ok tag => .unexpectedTag (some expected) tag
  | .error .longNumber => .badTagNumber
  | .error (.unknown byte) => .unknownTag byte

/-- A tag other than the expected one is found out once the length has been read, a byte that is no
tag already before. -/
theorem headerOf_eq_wrongTag (expected : Tag) {first length : UInt8}
    (hfirst : first ≠ expected.toByte) (hlength : length.toNat < 0x80) (start offset : Nat)
    (rest : List UInt8) :
    ∃ reached, headerOf expected ⟨start, offset, first :: length :: rest⟩ =
      .error ⟨⟨wrongTag expected first, none⟩, reached⟩ := by
  rw [wrongTag]
  cases htag : Tag.ofByte first with
  | error fault =>
    have hheader : header ⟨start, offset, first :: length :: rest⟩ =
        (tagOfByte first >>= fun tag ↦ Der.length tag >>= fun n ↦ pure ⟨tag, n⟩)
          ⟨start, offset + 1, length :: rest⟩ :=
      reads_byte.bind_apply rfl _ start offset (length :: rest)
    rw [headerOf, bind_eq, hheader, bind_eq, tagOfByte, htag]
    cases fault with
    | longNumber => exact ⟨offset + 1, rfl⟩
    | unknown byte => exact ⟨offset + 1, rfl⟩
  | ok tag =>
    have hother : tag ≠ expected := by
      rintro rfl
      exact hfirst (Tag.toByte_of_ofByte htag).symm
    have hform : HeaderForm [first, length] ⟨tag, length.toNat⟩ :=
      ⟨first, [length], rfl, htag, .short length hlength⟩
    refine ⟨offset + 2, (reads_header.bind_apply hform _ start offset rest).trans ?_⟩
    rw [if_neg hother]
    rfl

/-- The byte that a cause quotes, or names by the tag that it stands for. -/
def quotedByte? : Cause → Option UInt8
  | .unexpectedTag _ tag => some tag.toByte
  | .unknownTag byte => some byte
  | _ => none

/-- A byte that stands in the place of a tag can be told from the failure, unless it announces a
longer tag. -/
theorem quotedByte?_wrongTag (expected : Tag) {first : UInt8} (h : first.toNat % 32 ≠ 31) :
    quotedByte? (wrongTag expected first) = some first := by
  have hall : ∀ n : Fin 256, n.val % 32 ≠ 31 →
      quotedByte? (wrongTag .sequence (UInt8.ofNat n)) = some (UInt8.ofNat n) := by
    decide +kernel
  have hfirst := hall ⟨first.toNat, first.toNat_lt⟩ h
  rw [UInt8.ofNat_toNat] at hfirst
  -- which tag was expected makes no difference
  rw [← hfirst, wrongTag, wrongTag]
  cases Tag.ofByte first with
  | ok tag => rfl
  | error fault => cases fault <;> rfl

theorem wrongTag_inj (expected : Tag) {first first' : UInt8} (h : first.toNat % 32 ≠ 31)
    (h' : first'.toNat % 32 ≠ 31) :
    wrongTag expected first = wrongTag expected first' ↔ first = first' := by
  refine ⟨fun heq ↦ ?_, fun heq ↦ heq ▸ rfl⟩
  rw [← Option.some_inj, ← quotedByte?_wrongTag expected h, heq, quotedByte?_wrongTag expected h']

end HexSigner.Der
