import HexSigner.Octets
import Mathlib.Tactic.Ring

/-!
# Byte strings and the numbers they stand for

Writing a number into `n` bytes keeps it modulo `256 ^ n`, and reading it back loses nothing: byte
strings of length `n` and the numbers below `256 ^ n` are the same thing.
-/

set_option autoImplicit false

namespace HexSigner

theorem littleEndian_lt (bytes : List UInt8) : littleEndian bytes < 256 ^ bytes.length := by
  induction bytes with
  | nil => simp [littleEndian]
  | cons b rest ih =>
    have hb := b.toNat_lt
    rw [littleEndian, List.length_cons, pow_succ]
    omega

theorem littleEndian_littleEndianBytes (n value : Nat) :
    littleEndian (littleEndianBytes n value) = value % 256 ^ n := by
  induction n generalizing value with
  | zero => rw [littleEndianBytes, littleEndian, pow_zero, Nat.mod_one]
  | succ n ih =>
    rw [littleEndianBytes, littleEndian, ih, UInt8.toNat_ofNat', pow_succ' 256 n, Nat.mod_mul]

theorem littleEndianBytes_littleEndian (bytes : List UInt8) :
    littleEndianBytes bytes.length (littleEndian bytes) = bytes := by
  induction bytes with
  | nil => rfl
  | cons b rest ih =>
    have hb := b.toNat_lt
    rw [List.length_cons, littleEndianBytes, littleEndian]
    congr 1
    · apply UInt8.toNat_inj.mp
      rw [UInt8.toNat_ofNat']
      omega
    · rw [show (b.toNat + 256 * littleEndian rest) / 256 = littleEndian rest by omega, ih]

namespace Octets

variable {n : Nat}

theorem toNat_lt (o : Octets n) : o.toNat < 256 ^ n := by
  have h := littleEndian_lt o.toList
  rwa [o.length_eq] at h

theorem toNat_ofNat (n value : Nat) : (ofNat n value).toNat = value % 256 ^ n :=
  littleEndian_littleEndianBytes n value

theorem toNat_ofNat_of_lt {value : Nat} (h : value < 256 ^ n) : (ofNat n value).toNat = value := by
  rw [toNat_ofNat, Nat.mod_eq_of_lt h]

theorem ofNat_toNat (o : Octets n) : ofNat n o.toNat = o := by
  apply Octets.ext
  have h := littleEndianBytes_littleEndian o.toList
  rwa [o.length_eq] at h

theorem toNat_injective : Function.Injective (toNat : Octets n → Nat) := by
  intro a b h
  rw [← ofNat_toNat a, h, ofNat_toNat]

theorem ofList?_eq_some_iff {bytes : List UInt8} {o : Octets n} :
    ofList? n bytes = some o ↔ bytes = o.toList := by
  rw [ofList?]
  split
  · rename_i h
    rw [Option.some_inj, Octets.ext_iff]
  · rename_i h
    refine ⟨fun h' ↦ by simp at h', fun h' ↦ absurd ?_ h⟩
    rw [h', o.length_eq]

theorem ofList?_toList (o : Octets n) : ofList? n o.toList = some o :=
  ofList?_eq_some_iff.mpr rfl

end Octets

end HexSigner
