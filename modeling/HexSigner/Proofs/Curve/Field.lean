import HexSigner.Proofs.Curve.Primes
import Mathlib.FieldTheory.Finite.Basic
import Mathlib.NumberTheory.LegendreSymbol.Basic

/-!
# Coordinates as elements of a field

Coordinates are numbers below `prime`, added and multiplied modulo it.  `Coordinate.toField` reads
them as elements of `ZMod prime`, which is a field; it loses nothing (`toField_injective`) and turns
every operation on coordinates into the field's own.  So an equation between coordinates holds as
soon as it holds in the field, where it can be reasoned about.

Beyond the ring operations there are two things to show.

* `Coordinate.inverse` is the inverse.
* `Coordinate.rootOfRatio?` finds the square root of a quotient, and finds it whenever there is one
  (`rootOfRatio?_eq_some_iff`).  The candidate `c` that it starts from satisfies `v c² = w u`, where
  `w` is `u v⁷` raised to the power `(prime - 1) / 4`.  If `u / v` is a square then so is `u v⁷`,
  which makes `w` a sign, and both signs are tried.
-/

set_option autoImplicit false

namespace HexSigner.Curve.Coordinate

/-- A coordinate as an element of the field. -/
def toField (x : Coordinate) : ZMod prime := (x.val : ZMod prime)

theorem toField_injective : Function.Injective toField := by
  intro x y h
  rw [toField, toField, ZMod.natCast_eq_natCast_iff', Nat.mod_eq_of_lt x.isLt,
    Nat.mod_eq_of_lt y.isLt] at h
  exact Fin.ext h

theorem toField_inj {x y : Coordinate} : x.toField = y.toField ↔ x = y := toField_injective.eq_iff

theorem toField_ofNat (n : Nat) : toField (Fin.ofNat prime n) = n := by
  rw [toField, Fin.val_ofNat, ZMod.natCast_mod]

@[simp] theorem toField_zero : toField 0 = 0 := by
  rw [toField, Fin.val_zero, Nat.cast_zero]

@[simp] theorem toField_one : toField 1 = 1 := (toField_ofNat 1).trans Nat.cast_one

@[simp] theorem toField_two : toField 2 = 2 := (toField_ofNat 2).trans Nat.cast_two

@[simp] theorem toField_add (x y : Coordinate) : toField (x + y) = x.toField + y.toField := by
  rw [toField, Fin.val_add, ZMod.natCast_mod, Nat.cast_add, toField, toField]

@[simp] theorem toField_mul (x y : Coordinate) : toField (x * y) = x.toField * y.toField := by
  rw [toField, Fin.val_mul, ZMod.natCast_mod, Nat.cast_mul, toField, toField]

@[simp] theorem toField_neg (x : Coordinate) : toField (-x) = -x.toField := by
  rw [toField, Fin.neg_def, ZMod.natCast_mod, Nat.cast_sub x.isLt.le, ZMod.natCast_self,
    zero_sub, toField]

@[simp] theorem toField_sub (x y : Coordinate) : toField (x - y) = x.toField - y.toField := by
  rw [toField, Fin.sub_def, ZMod.natCast_mod, Nat.cast_add, Nat.cast_sub y.isLt.le,
    ZMod.natCast_self, toField, toField]
  ring

theorem toField_eq_zero {x : Coordinate} : x.toField = 0 ↔ x = 0 := by
  rw [← toField_zero, toField_inj]

theorem two_ne_zero : (2 : ZMod prime) ≠ 0 := by
  rw [← toField_two, ne_eq, toField_eq_zero]
  decide

/-! ## Powers and inverses -/

@[simp] theorem toField_power (x : Coordinate) (n : Nat) :
    (x.power n).toField = x.toField ^ n := by
  refine combine_copies (R := fun k (y : Coordinate) ↦ y.toField = x.toField ^ k) ?_ ?_ ?_ n
  · rw [toField_one, pow_zero]
  · rw [pow_one]
  · intro k l y z hy hz
    rw [toField_mul, hy, hz, pow_add]

@[simp] theorem toField_inverse (x : Coordinate) : x.inverse.toField = x.toField⁻¹ := by
  rw [inverse, toField_power]
  by_cases hx : x.toField = 0
  · rw [hx, inv_zero, zero_pow (by decide)]
  · refine eq_inv_of_mul_eq_one_left ?_
    rw [← pow_succ, show prime - 2 + 1 = prime - 1 by decide]
    exact ZMod.pow_card_sub_one_eq_one hx

/-! ## Signs -/

theorem isNegative_zero : isNegative 0 = false := by decide

/-- The prime is odd, so of a number and its opposite exactly one is negative. -/
theorem isNegative_neg {x : Coordinate} (hx : x ≠ 0) : (-x).isNegative = !x.isNegative := by
  have hpos : x.val ≠ 0 := fun h ↦ hx (Fin.ext h)
  have hlt := x.isLt
  have hodd : prime % 2 = 1 := by decide
  have hval : (-x).val = prime - x.val := by
    rw [Fin.neg_def]
    exact Nat.mod_eq_of_lt (by omega)
  rw [isNegative, isNegative, hval]
  rcases Nat.mod_two_eq_zero_or_one x.val with h | h
  · rw [h, show (prime - x.val) % 2 = 1 by omega]
    rfl
  · rw [h, show (prime - x.val) % 2 = 0 by omega]
    rfl

theorem isNegative_absolute (x : Coordinate) : x.absolute.isNegative = false := by
  rw [absolute]
  split
  · rename_i h
    have hx : x ≠ 0 := by
      rintro rfl
      rw [isNegative_zero] at h
      exact Bool.false_ne_true h
    rw [isNegative_neg hx, h]
    rfl
  · rename_i h
    exact Bool.eq_false_iff.mpr h

theorem absolute_mul_absolute (x : Coordinate) : x.absolute * x.absolute = x * x := by
  rw [absolute]
  split
  · rw [← toField_inj]
    simp
  · rfl

theorem mul_self_eq_iff {x y : Coordinate} : x * x = y * y ↔ x = y ∨ x = -y := by
  rw [← toField_inj, toField_mul, toField_mul, mul_self_eq_mul_self_iff, ← toField_neg,
    toField_inj, toField_inj]

/-- Two numbers of the same sign and the same square are equal. -/
theorem eq_of_mul_self_eq {x y : Coordinate} (hsq : x * x = y * y)
    (hsign : x.isNegative = y.isNegative) : x = y := by
  rcases mul_self_eq_iff.mp hsq with h | h
  · exact h
  · by_cases hy : y = 0
    · rw [h, hy]
      rfl
    · rw [h, isNegative_neg hy] at hsign
      exact absurd hsign (by simp)

/-! ## Square roots -/

theorem rootOfMinusOne_mul_self : rootOfMinusOne * rootOfMinusOne = -1 := by decide +kernel

/-- The candidate for a root of `u / v`, before its square is looked at. -/
def candidate (u v : Coordinate) : Coordinate :=
  u * (v * v * v) * (u * ((v * v * v) * (v * v * v) * v)).power ((prime - 5) / 8)

theorem rootOfRatio?_eq (u v : Coordinate) :
    rootOfRatio? u v =
      if v * (candidate u v * candidate u v) = u then some (candidate u v).absolute
      else if v * (candidate u v * candidate u v) = -u then
        some (candidate u v * rootOfMinusOne).absolute
      else none := rfl

/-- What the candidate misses by: `v c² = u (u v⁷) ^ ((p - 1) / 4)`. -/
theorem toField_candidate (u v : Coordinate) :
    (v * (candidate u v * candidate u v)).toField =
      u.toField * (u.toField * v.toField ^ 7) ^ ((prime - 1) / 4) := by
  rw [show (prime - 1) / 4 = (prime - 5) / 8 + (prime - 5) / 8 + 1 by decide, pow_succ, pow_add]
  simp only [candidate, toField_mul, toField_power]
  rw [show u.toField * (v.toField * v.toField * v.toField *
      (v.toField * v.toField * v.toField) * v.toField) = u.toField * v.toField ^ 7 by ring]
  ring

/-- If there is a root, the candidate misses by a sign. -/
theorem candidate_of_ratio {u v s : Coordinate} (hs : v * (s * s) = u) :
    v * (candidate u v * candidate u v) = u ∨ v * (candidate u v * candidate u v) = -u := by
  have hu : u.toField = v.toField * (s.toField * s.toField) := by
    rw [← hs, toField_mul, toField_mul]
  rw [← toField_inj, ← toField_inj, toField_candidate, toField_neg]
  by_cases h0 : v.toField ^ 4 * s.toField = 0
  · have hu0 : u.toField = 0 := by
      rcases mul_eq_zero.mp h0 with h | h
      · rw [hu, eq_zero_of_pow_eq_zero h, zero_mul]
      · rw [hu, h, zero_mul, mul_zero]
    rw [hu0, zero_mul]
    exact Or.inl rfl
  · have hpow : (u.toField * v.toField ^ 7) ^ ((prime - 1) / 4) =
        (v.toField ^ 4 * s.toField) ^ (prime / 2) := by
      rw [show prime / 2 = 2 * ((prime - 1) / 4) by decide, pow_mul, hu]
      ring
    rw [hpow]
    rcases ZMod.pow_div_two_eq_neg_one_or_one prime h0 with h | h
    · rw [h, mul_one]
      exact Or.inl rfl
    · rw [h, mul_neg_one]
      exact Or.inr rfl

/-- What is found is a root and not negative. -/
theorem of_rootOfRatio?_eq_some {u v r : Coordinate} (h : rootOfRatio? u v = some r) :
    v * (r * r) = u ∧ r.isNegative = false := by
  rw [rootOfRatio?_eq] at h
  split at h
  · rename_i hc
    rw [Option.some_inj] at h
    subst h
    exact ⟨by rw [absolute_mul_absolute, hc], isNegative_absolute _⟩
  · split at h
    · rename_i hc
      rw [Option.some_inj] at h
      subst h
      refine ⟨?_, isNegative_absolute _⟩
      have hi := rootOfMinusOne_mul_self
      rw [← toField_inj] at hc hi ⊢
      rw [absolute_mul_absolute]
      simp only [toField_mul, toField_neg, toField_one] at hc hi ⊢
      linear_combination rootOfMinusOne.toField * rootOfMinusOne.toField * hc - u.toField * hi
    · cases h

theorem rootOfRatio?_isSome {u v s : Coordinate} (hs : v * (s * s) = u) :
    (rootOfRatio? u v).isSome = true := by
  rw [rootOfRatio?_eq]
  rcases candidate_of_ratio hs with h | h
  · rw [if_pos h]
    rfl
  · rw [if_pos h]
    split <;> rfl

/-- **The square root of a quotient is found if there is one.** -/
theorem rootOfRatio?_eq_some_iff {u v r : Coordinate} (hv : v ≠ 0) :
    rootOfRatio? u v = some r ↔ v * (r * r) = u ∧ r.isNegative = false := by
  refine ⟨of_rootOfRatio?_eq_some, fun ⟨hr, hsign⟩ ↦ ?_⟩
  obtain ⟨c, hc⟩ := Option.isSome_iff_exists.mp (rootOfRatio?_isSome hr)
  obtain ⟨hroot, hsign'⟩ := of_rootOfRatio?_eq_some hc
  have hsq : c * c = r * r := by
    rw [← hr, ← toField_inj, toField_mul v, toField_mul v] at hroot
    exact toField_injective (mul_left_cancel₀ (fun h ↦ hv (toField_eq_zero.mp h)) hroot)
  rw [hc, eq_of_mul_self_eq hsq (hsign'.trans hsign.symm)]

end HexSigner.Curve.Coordinate
