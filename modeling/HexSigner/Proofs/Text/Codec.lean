import HexSigner.Proofs.Text.LetterCase
import HexSigner.Proofs.Text.Quoted

/-!
# The codec for hexadecimal text

Two functions look at a text to see whether it is hexadecimal: `decode` takes its bytes two by two,
and `isHex` goes through all of them.  They agree, and where `decode` fails it names what is wrong
first (`decode_names_first_fault`): an odd number of bytes, whatever else is wrong, and otherwise
the byte with the least index that is no digit.

What is read and what is written determine each other (`codec_roundTrips`).  Nothing is lost in
either direction but the case of the letters.

A digit is a character here, and a byte is a digit if the character with its code point is one.  In
UTF-8 this makes no difference, since a digit has one byte and all other characters begin with a
byte that is none (`isDigit_iff_bytes`).
-/

set_option autoImplicit false

namespace HexSigner

namespace Text

theorem utf8_eq (s : String) : utf8 s = s.toUTF8.data.toList := by
  conv_rhs =>
    rw [String.toUTF8_eq_toByteArray, ← String.ofList_toList (s := s), String.toByteArray_ofList,
      List.utf8Encode, List.toList_data_toByteArray]
  rfl

theorem length_utf8 (s : String) : (utf8 s).length = s.utf8ByteSize := by
  rw [utf8_eq, Array.length_toList]
  rfl

end Text

namespace Hex

/-! ## Digits -/

/-- A hexadecimal digit of either case. -/
def IsDigit (c : Char) : Prop :=
  '0' ≤ c ∧ c ≤ '9' ∨ 'a' ≤ c ∧ c ≤ 'f' ∨ 'A' ≤ c ∧ c ≤ 'F'

instance (c : Char) : Decidable (IsDigit c) := inferInstanceAs (Decidable (_ ∨ _))

theorem isDigit_iff (c : Char) :
    IsDigit c ↔ 48 ≤ c.toNat ∧ c.toNat ≤ 57 ∨ 97 ≤ c.toNat ∧ c.toNat ≤ 102 ∨
      65 ≤ c.toNat ∧ c.toNat ≤ 70 :=
  Iff.rfl

/-- The character whose code point is the value of a byte. -/
def characterOf (b : UInt8) : Char := Char.ofNat b.toNat

theorem toNat_characterOf (b : UInt8) : (characterOf b).toNat = b.toNat := by
  have hb := b.toNat_lt
  have hvalid : b.toNat.isValidChar := .inl (by omega)
  rw [characterOf, Char.ofNat, dif_pos hvalid]
  rfl

theorem isSome_digit?_iff (b : UInt8) : (digit? b).isSome = true ↔ IsDigit (characterOf b) := by
  rw [isDigit_iff, toNat_characterOf, digit?]
  split_ifs <;> simp_all

/-- **A character is a digit if its bytes are.** -/
theorem isDigit_iff_bytes (c : Char) :
    IsDigit c ↔ ∀ b ∈ String.utf8EncodeChar c, IsDigit (characterOf b) := by
  by_cases hlt : c.toNat < 128
  · have hbyte : characterOf (UInt8.ofNat c.toNat) = c := by
      rw [← Char.toNat_inj, toNat_characterOf, UInt8.toNat_ofNat']
      omega
    rw [utf8EncodeChar_of_lt hlt, List.forall_mem_singleton, hbyte]
  · obtain ⟨b, rest, hc, hb⟩ := le_head_utf8EncodeChar (Nat.le_of_not_lt hlt)
    rw [hc, List.forall_mem_cons]
    simp only [isDigit_iff, toNat_characterOf]
    omega

theorem forall_isDigit_utf8OfChars (cs : List Char) :
    (∀ b ∈ Text.utf8OfChars cs, IsDigit (characterOf b)) ↔ ∀ c ∈ cs, IsDigit c := by
  rw [Text.utf8OfChars, List.forall_mem_flatMap]
  exact forall₂_congr fun c _ ↦ (isDigit_iff_bytes c).symm

theorem length_utf8OfChars {cs : List Char} (h : ∀ c ∈ cs, IsDigit c) :
    (Text.utf8OfChars cs).length = cs.length := by
  induction cs with
  | nil => rfl
  | cons c cs ih =>
    obtain ⟨hc, hcs⟩ := List.forall_mem_cons.mp h
    have hlt : c.toNat < 128 := by
      rw [isDigit_iff] at hc
      omega
    rw [Text.utf8OfChars, List.flatMap_cons, List.length_append, utf8EncodeChar_of_lt hlt,
      ← Text.utf8OfChars, ih hcs, List.length_singleton, List.length_cons, Nat.add_comm]

theorem isHex_iff_bytes (text : String) :
    isHex text = true ↔
      text.utf8ByteSize % 2 = 0 ∧ ∀ b ∈ Text.utf8 text, IsDigit (characterOf b) := by
  simp only [isHex, Bool.and_eq_true, beq_iff_eq, List.all_eq_true, isSome_digit?_iff,
    Text.length_utf8]

/-- **Hexadecimal text is an even number of digits.** -/
theorem isHex_iff_characters (text : String) :
    isHex text = true ↔ text.length % 2 = 0 ∧ ∀ c ∈ text.toList, IsDigit c := by
  rw [isHex_iff_bytes, Text.utf8, forall_isDigit_utf8OfChars, ← Text.length_utf8, Text.utf8]
  refine and_congr_left fun h ↦ ?_
  rw [length_utf8OfChars h, String.length_toList]

/-! ## The first fault -/

/-- The byte `b` at index `i` is the first one that is no digit. -/
structure FirstBad (bytes : List UInt8) (b : UInt8) (i : Nat) : Prop where
  at_index : bytes[i]? = some b
  not_digit : ¬IsDigit (characterOf b)
  digits_before : ∀ j < i, ∀ d, bytes[j]? = some d → IsDigit (characterOf d)

theorem FirstBad.head {b : UInt8} (hb : digit? b = none) (bytes : List UInt8) :
    FirstBad (b :: bytes) b 0 where
  at_index := rfl
  not_digit := by simp [← isSome_digit?_iff, hb]
  digits_before := nofun

theorem FirstBad.cons {bytes : List UInt8} {d b : UInt8} {i n : Nat} (hd : digit? d = some n)
    (h : FirstBad bytes b i) : FirstBad (d :: bytes) b (i + 1) where
  at_index := h.at_index
  not_digit := h.not_digit
  digits_before j hj e he := by
    cases j with
    | zero =>
      cases he
      simp [← isSome_digit?_iff, hd]
    | succ j => exact h.digits_before j (Nat.lt_of_succ_lt_succ hj) e he

/-- Reading digits two by two stops at the first byte that is none, which may be the second one of a
pair. -/
theorem firstBad_of_decodePairs {index : Nat} {bytes : List UInt8} {f : Fault}
    (heven : bytes.length % 2 = 0) (h : decodePairs index bytes = .error f) :
    ∃ b i, FirstBad bytes b i ∧ f = .badDigit b (index + i) := by
  induction index, bytes using decodePairs.induct with
  | case1 index => cases h
  | case2 index b => cases heven
  | case3 index hi lo rest hhi =>
    simp only [decodePairs, hhi, Except.error.injEq] at h
    exact ⟨hi, 0, .head hhi _, h.symm⟩
  | case4 index hi lo rest m hlo hhi =>
    simp only [decodePairs, hhi, hlo, Except.error.injEq] at h
    exact ⟨lo, 1, .cons hhi (.head hlo _), h.symm⟩
  | case5 index hi lo rest m n hlo hhi ih =>
    simp only [decodePairs, hhi, hlo] at h
    cases hrest : decodePairs (index + 2) rest with
    | ok bytes => simp [hrest, Except.map] at h
    | error g =>
      simp only [hrest, Except.map, Except.error.injEq] at h
      subst h
      have hlength : rest.length % 2 = 0 := by
        simp only [List.length_cons] at heven
        omega
      obtain ⟨b, i, hbad, hg⟩ := ih hlength hrest
      refine ⟨b, i + 2, .cons hhi (.cons hlo hbad), ?_⟩
      rw [hg, Nat.add_right_comm, Nat.add_assoc]

/-- The wording of a byte that is no digit. -/
theorem reason_badDigit (b : UInt8) (i : Nat) :
    (Fault.badDigit b i).reason =
      "invalid hex character " ++ ("'" ++ Text.betweenQuotes (characterOf b) ++ "'") ++
        " at index " ++ toString i := by
  have hlt : (characterOf b).toNat < 256 := by
    rw [toNat_characterOf]
    exact b.toNat_lt
  rw [← Text.quotedChar_eq hlt]
  rfl

/-- **Reading and checking agree, and reading names what is wrong first.**  A text is read exactly
if `isHex` holds, which means that it has an even number of bytes, all of them digits.  If it is
not read, an odd number of bytes is named before anything else; if there is an even number, the
first byte that is no digit is named with its index in the UTF-8 form, as the character with its
code point. -/
theorem decode_names_first_fault (text : String) :
    ((∃ bytes, decode text = .ok bytes) ↔ isHex text = true) ∧
    (isHex text = true ↔
      text.utf8ByteSize % 2 = 0 ∧ ∀ b ∈ Text.utf8 text, IsDigit (characterOf b)) ∧
    ∀ f, decode text = .error f →
      (text.utf8ByteSize % 2 = 1 → f.reason = "odd length (" ++ toString text.utf8ByteSize ++ ")") ∧
      (text.utf8ByteSize % 2 = 0 → ∃ b i, FirstBad (Text.utf8 text) b i ∧
        f.reason = "invalid hex character " ++ ("'" ++ Text.betweenQuotes (characterOf b) ++ "'") ++
          " at index " ++ toString i) := by
  refine ⟨(isHex_iff_exists_decode text).symm, isHex_iff_bytes text, fun f h ↦ ?_⟩
  rw [decode, decodeBytes, Text.length_utf8] at h
  constructor
  · intro hodd
    rw [if_pos hodd, Except.error.injEq] at h
    exact h ▸ rfl
  · intro heven
    rw [if_neg (by omega)] at h
    obtain ⟨b, i, hbad, rfl⟩ := firstBad_of_decodePairs ((Text.length_utf8 text).symm ▸ heven) h
    rw [Nat.zero_add]
    exact ⟨b, i, hbad, reason_badDigit b i⟩

/-- In `é` both bytes are wrong; the first one is named, and behind a digit it is the second one of
a pair.  With an odd number of bytes neither is. -/
theorem decode_names_first_fault_accent :
    decode "0é0" = .error (.badDigit 0xc3 1) ∧
    (∃ b i, FirstBad (Text.utf8 "0é0") b i ∧
      (Fault.badDigit 0xc3 1).reason =
        "invalid hex character " ++ ("'" ++ Text.betweenQuotes (characterOf b) ++ "'") ++
          " at index " ++ toString i) ∧
    decode "é0" = .error (.oddLength 3) ∧ (Fault.oddLength 3).reason = "odd length (3)" := by
  have heven : decode "0é0" = .error (.badDigit 0xc3 1) := by decide +kernel
  have hodd : decode "é0" = .error (.oddLength 3) := by decide +kernel
  exact ⟨heven, ((decode_names_first_fault _).2.2 _ heven).2 (by decide +kernel), hodd,
    ((decode_names_first_fault _).2.2 _ hodd).1 (by decide +kernel)⟩

/-! ## Round trips -/

theorem utf8ByteSize_encode (bytes : List UInt8) :
    (encode bytes).utf8ByteSize = 2 * bytes.length := by
  rw [← Text.length_utf8, Text.utf8, encode, String.toList_ofList, length_utf8OfChars_flatMap]

/-- Two digits are read for each byte. -/
theorem length_eq_of_decode {text : String} {bytes : List UInt8} (h : decode text = .ok bytes) :
    text.length = 2 * bytes.length := by
  rw [← length_encode, ← decode_eq_ok_iff.mp h, ← String.length_toList, ← String.length_toList,
    toList_toLower, List.length_map]

/-- **Reading and writing undo each other.**  What is written is hexadecimal, with two digits for
each byte and no letter in upper case, and is read back.  A text that is read is what would be
written for its bytes, up to the case of its letters.  So two texts stand for the same bytes
exactly if they are hexadecimal and equal up to the case of their letters. -/
theorem codec_roundTrips :
    (∀ bytes, isHex (encode bytes) = true ∧ (encode bytes).utf8ByteSize = 2 * bytes.length ∧
      (∀ c ∈ (encode bytes).toList, c ∈ "0123456789abcdef".toList) ∧
      decode (encode bytes) = .ok bytes) ∧
    (∀ text bytes, decode text = .ok bytes → encode bytes = text.toLower) ∧
    ∀ text text', (∃ bytes, decode text = .ok bytes ∧ decode text' = .ok bytes) ↔
      isHex text = true ∧ isHex text' = true ∧ text.toLower = text'.toLower := by
  refine ⟨fun bytes ↦ ⟨?_, utf8ByteSize_encode bytes, fun c ↦ mem_encode, decode_encode bytes⟩,
    fun text bytes h ↦ (decode_eq_ok_iff.mp h).symm, fun text text' ↦ ?_⟩
  · exact (isHex_iff_exists_decode _).mpr ⟨bytes, decode_encode bytes⟩
  · simp only [isHex_iff_exists_decode, decode_eq_ok_iff]
    constructor
    · rintro ⟨bytes, h, h'⟩
      exact ⟨⟨bytes, h⟩, ⟨bytes, h'⟩, h.trans h'.symm⟩
    · rintro ⟨⟨bytes, h⟩, -, hsame⟩
      exact ⟨bytes, h, hsame.symm.trans h⟩

/-- Letters of both cases in one text, and in one byte. -/
theorem codec_roundTrips_mixed :
    decode "dEADbeEF" = .ok [0xde, 0xad, 0xbe, 0xef] ∧
      encode [0xde, 0xad, 0xbe, 0xef] = "dEADbeEF".toLower := by
  have h : decode "dEADbeEF" = .ok [0xde, 0xad, 0xbe, 0xef] := by decide +kernel
  exact ⟨h, codec_roundTrips.2.1 _ _ h⟩

end Hex

end HexSigner
