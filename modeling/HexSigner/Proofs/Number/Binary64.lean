import HexSigner.Number.Binary64
import Mathlib.Algebra.Order.Ring.Rat
import Mathlib.Data.Nat.Cast.Order.Field
import Mathlib.Tactic.NormNum
import Mathlib.Tactic.Ring

/-!
# Rounding depends on the value alone

A decimal can be written with more or fewer zeros at its end.  `Binary64.ofDecimal` looks at the
digits and the exponent to find out whether there is anything to compute, but the double that it
comes to is that of the value: decimals of the same value are rounded to the same double
(`ofDecimal_eq_of_value_eq`).
-/

set_option autoImplicit false

namespace HexSigner.Binary64

/-! ## Common factors -/

theorem nearestInteger_mul_right {c : Nat} (hc : 0 < c) (num den : Nat) :
    nearestInteger (num * c) (den * c) = nearestInteger num den := by
  simp only [nearestInteger, Nat.mul_div_mul_right _ _ hc, Nat.mul_mod_mul_right, ← Nat.mul_assoc,
    Nat.mul_lt_mul_right hc]

/-- A quotient is rounded alike, whatever factor its parts have in common. -/
theorem nearest_mul_right {c : Nat} (hc : 0 < c) (num den : Nat) :
    nearest (num * c) (den * c) = nearest num den := by
  simp only [nearest, Nat.mul_div_mul_right _ _ hc, Nat.mul_right_comm den c,
    nearestInteger_mul_right hc]

/-! ## Zeros at the end -/

theorem length_toDigits_mul_pow {d : Nat} (hd : 0 < d) (k : Nat) :
    (Nat.toDigits 10 (d * 10 ^ k)).length = (Nat.toDigits 10 d).length + k := by
  induction k with
  | zero => rw [Nat.pow_zero, Nat.mul_one, Nat.add_zero]
  | succ k ih =>
    have hpos : 0 < d * 10 ^ k := Nat.mul_pos hd (Nat.pow_pos (by decide))
    have happend := Nat.toDigits_append_toDigits (b := 10) (d := 0) (by decide) hpos (by decide)
    have hshift : d * 10 ^ (k + 1) = 10 * (d * 10 ^ k) + 0 := by
      rw [Nat.pow_succ]
      ring
    rw [hshift, ← happend, List.length_append, ih]
    rfl

/-- Zeros at the end of the digits count for the exponent. -/
theorem ofDecimal_mul_pow (d k : Nat) (e : Int) :
    ofDecimal (d * 10 ^ k) e = ofDecimal d (e + k) := by
  obtain rfl | hd := Nat.eq_zero_or_pos d
  · simp [ofDecimal]
  have hpow : 0 < 10 ^ k := Nat.pow_pos (by decide)
  have hpos : 0 < d * 10 ^ k := Nat.mul_pos hd hpow
  have hsize : ((Nat.toDigits 10 d).length + k : Nat) + e =
      ((Nat.toDigits 10 d).length : Int) + (e + k) := by omega
  simp only [ofDecimal, hd.ne', hpos.ne', length_toDigits_mul_pow hd, hsize, false_or]
  split
  · rfl
  split
  · rfl
  by_cases he : 0 ≤ e
  · have hexponent : (e + k).toNat = k + e.toNat := by omega
    rw [if_pos he, if_pos (by omega), hexponent, Nat.pow_eq, Nat.pow_eq, Nat.pow_add,
      Nat.mul_assoc d]
  by_cases hk : 0 ≤ e + k
  · have hsplit : 10 ^ k = 10 ^ (e + k).toNat * 10 ^ (-e).toNat := by
      rw [← Nat.pow_add]
      congr 1
      omega
    have hdigits : d * 10 ^ k * one = d * 10 ^ (e + k).toNat * one * 10 ^ (-e).toNat := by
      rw [hsplit]
      ring
    have hscale := nearest_mul_right (c := 10 ^ (-e).toNat) (Nat.pow_pos (by decide))
      (d * 10 ^ (e + k).toNat * one) 1
    rw [if_neg he, if_pos hk, Nat.pow_eq, Nat.pow_eq, hdigits, ← hscale, Nat.one_mul]
  · have hexponent : (-e).toNat = (-(e + k)).toNat + k := by omega
    rw [if_neg he, if_neg hk, hexponent, Nat.pow_eq, Nat.pow_eq, Nat.pow_add, Nat.mul_right_comm,
      nearest_mul_right hpow]

/-- **Decimals of the same value are rounded to the same double.** -/
theorem ofDecimal_eq_of_value_eq {d d' : Nat} {e e' : Int}
    (h : (d : ℚ) * 10 ^ e = d' * 10 ^ e') : ofDecimal d e = ofDecimal d' e' := by
  wlog hle : e ≤ e' generalizing d d' e e'
  · exact (this h.symm (by omega)).symm
  obtain ⟨k, rfl⟩ := Int.exists_add_of_le hle
  have hpow : (10 : ℚ) ^ e ≠ 0 := zpow_ne_zero _ (by norm_num)
  have hvalue : (d : ℚ) = (d' * 10 ^ k : Nat) := by
    rw [zpow_add₀ (by norm_num), zpow_natCast] at h
    refine mul_right_cancel₀ hpow (h.trans ?_)
    push_cast
    ring
  rw [Nat.cast_injective hvalue, ofDecimal_mul_pow]

end HexSigner.Binary64
