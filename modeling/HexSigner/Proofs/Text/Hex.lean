import HexSigner.Text.Hex
import Mathlib.Tactic.IntervalCases

/-!
# Hexadecimal text and bytes

Reading undoes writing (`decode_encode`), and it succeeds on exactly the texts that `isHex` calls
hexadecimal (`isHex_iff_exists_decode`).

Both facts are about digits two by two, so the inductions follow `decodePairs`: its bytes are taken
in pairs, and the index that it counts along matters for the wording of a fault only.
-/

set_option autoImplicit false

namespace HexSigner.Hex

/-! ## Digits -/

/-- The one byte of a digit, which is read as the digit that was written. -/
theorem digit?_digit {n : Nat} (h : n < 16) :
    ∃ b, String.utf8EncodeChar (digit n) = [b] ∧ digit? b = some n := by
  interval_cases n
  all_goals exact ⟨_, rfl, rfl⟩

/-- The two bytes of the digits of a byte. -/
theorem utf8OfChars_byteDigits (b : UInt8) :
    ∃ hi lo, Text.utf8OfChars (byteDigits b) = [hi, lo] ∧
      digit? hi = some (b.toNat / 16) ∧ digit? lo = some (b.toNat % 16) := by
  have hb := b.toNat_lt
  obtain ⟨hi, hhi, hi'⟩ := digit?_digit (show b.toNat / 16 < 16 by omega)
  obtain ⟨lo, hlo, lo'⟩ := digit?_digit (show b.toNat % 16 < 16 by omega)
  refine ⟨hi, lo, ?_, hi', lo'⟩
  simp [Text.utf8OfChars, byteDigits, hhi, hlo]

/-! ## Reading what was written -/

theorem utf8OfChars_flatMap_byteDigits (bytes : List UInt8) :
    Text.utf8OfChars (bytes.flatMap byteDigits) =
      bytes.flatMap fun b ↦ Text.utf8OfChars (byteDigits b) := by
  rw [Text.utf8OfChars, List.flatMap_assoc]
  rfl

theorem length_utf8OfChars_flatMap (bytes : List UInt8) :
    (Text.utf8OfChars (bytes.flatMap byteDigits)).length = 2 * bytes.length := by
  rw [utf8OfChars_flatMap_byteDigits]
  induction bytes with
  | nil => rfl
  | cons b rest ih =>
    obtain ⟨hi, lo, hb, -, -⟩ := utf8OfChars_byteDigits b
    rw [List.flatMap_cons, List.length_append, ih, hb, List.length_cons]
    simp only [List.length_cons, List.length_nil]
    omega

theorem decodePairs_flatMap (bytes : List UInt8) (index : Nat) :
    decodePairs index (Text.utf8OfChars (bytes.flatMap byteDigits)) = .ok bytes := by
  rw [utf8OfChars_flatMap_byteDigits]
  induction bytes generalizing index with
  | nil => rfl
  | cons b rest ih =>
    obtain ⟨hi, lo, hb, hhi, hlo⟩ := utf8OfChars_byteDigits b
    have hbyte : UInt8.ofNat (16 * (b.toNat / 16) + b.toNat % 16) = b := by
      rw [Nat.div_add_mod, UInt8.ofNat_toNat]
    rw [List.flatMap_cons, hb, List.cons_append, List.singleton_append]
    simp only [decodePairs, hhi, hlo, ih, Except.map, hbyte]

/-- **Reading undoes writing.** -/
theorem decode_encode (bytes : List UInt8) : decode (encode bytes) = .ok bytes := by
  rw [decode, decodeBytes, Text.utf8, encode, String.toList_ofList, length_utf8OfChars_flatMap,
    Nat.mul_mod_right, if_neg (by decide), decodePairs_flatMap]

/-! ## What is written -/

theorem length_encode (bytes : List UInt8) : (encode bytes).length = 2 * bytes.length := by
  rw [encode, String.length_ofList, List.length_flatMap]
  simp [byteDigits, List.map_const', Nat.mul_comm]

theorem digit_mem {n : Nat} (h : n < 16) : digit n ∈ "0123456789abcdef".toList := by
  have hall : ∀ n : Fin 16, digit n ∈ "0123456789abcdef".toList := by decide
  exact hall ⟨n, h⟩

/-- Only lower-case digits are written. -/
theorem mem_encode {bytes : List UInt8} {c : Char} (h : c ∈ (encode bytes).toList) :
    c ∈ "0123456789abcdef".toList := by
  rw [encode, String.toList_ofList, List.mem_flatMap] at h
  obtain ⟨b, -, h⟩ := h
  have hb := b.toNat_lt
  rw [byteDigits, List.mem_cons, List.mem_singleton] at h
  obtain rfl | rfl := h
  · exact digit_mem (by omega)
  · exact digit_mem (by omega)

/-! ## The texts that are read -/

/-- Pairs of digits are read, whatever the index. -/
theorem exists_decodePairs_iff (index : Nat) (digits : List UInt8) :
    (∃ bytes, decodePairs index digits = .ok bytes) ↔
      digits.length % 2 = 0 ∧ ∀ b ∈ digits, (digit? b).isSome := by
  induction index, digits using decodePairs.induct with
  | case1 index => simp [decodePairs]
  | case2 index b => simp [decodePairs]
  | case3 index hi lo rest hhi => simp [decodePairs, hhi]
  | case4 index hi lo rest h hhi hlo => simp [decodePairs, hhi, hlo]
  | case5 index hi lo rest h l hhi hlo ih =>
    have hrest : (∃ bytes, decodePairs index (hi :: lo :: rest) = .ok bytes) ↔
        ∃ bytes, decodePairs (index + 2) rest = .ok bytes := by
      simp only [decodePairs, hhi, hlo]
      cases decodePairs (index + 2) rest with
      | error f => simp [Except.map]
      | ok bytes => simp [Except.map]
    rw [hrest, ih]
    simp [hhi, hlo, Nat.add_assoc]

/-- **Reading succeeds on hexadecimal text, and on no other.** -/
theorem isHex_iff_exists_decode (text : String) :
    isHex text = true ↔ ∃ bytes, decode text = .ok bytes := by
  have hpairs := exists_decodePairs_iff 0 (Text.utf8 text)
  rw [isHex, Bool.and_eq_true, beq_iff_eq, List.all_eq_true, ← hpairs, decode, decodeBytes]
  split
  · rename_i hodd
    refine ⟨fun h ↦ ?_, ?_⟩
    · have heven := (hpairs.mp h).1
      omega
    · rintro ⟨bytes, h⟩
      cases h
  · rfl

end HexSigner.Hex
