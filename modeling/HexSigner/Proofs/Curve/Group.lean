import HexSigner.Curve.Extended
import HexSigner.Proofs.Curve.Edwards
import HexSigner.Proofs.Curve.Field
import Mathlib.GroupTheory.OrderOfElement

/-!
# The group of points

The points of the curve form a group, `CurveGroup`, in which sums are unambiguous and multiples
behave.  What the signer computes with are pairs of coordinates and extended coordinates; each of
them may stand for an element of the group, which is what `Point.Denotes` and `Extended.Denotes`
say.

A pair of coordinates stands for an element if and only if it is on the curve
(`Point.onCurve_iff_denotes`), and it stands for one element only.  Every operation on points then
stands for the operation of the group: the addition law, the addition law without division, the
opposite, and multiples by doubling (`Point.Denotes.multiple`).

The base point generates a subgroup of prime order `groupOrder`.
-/

set_option autoImplicit false

namespace HexSigner.Curve

open Coordinate

/-! ## The curve -/

theorem power_coefficient : coefficient.power (prime / 2) = -1 := by decide +kernel

theorem not_isSquare_coefficient : ¬IsSquare coefficient.toField := by
  have hpow := congrArg toField power_coefficient
  rw [toField_power, toField_neg, toField_one] at hpow
  have hne : coefficient.toField ≠ 0 := by
    rw [ne_eq, toField_eq_zero]
    decide +kernel
  rw [ZMod.euler_criterion prime hne, hpow]
  intro h
  exact two_ne_zero (by linear_combination -h)

/-- The curve, over the field of `prime` elements. -/
noncomputable def edwards25519 : EdwardsCurve (ZMod prime) where
  d := coefficient.toField
  i := rootOfMinusOne.toField
  i_mul_i := by rw [← toField_mul, rootOfMinusOne_mul_self, toField_neg, toField_one]
  not_isSquare_d := not_isSquare_coefficient
  two_ne_zero := two_ne_zero

/-- The group of points of the curve. -/
abbrev CurveGroup : Type := edwards25519.Point

open EdwardsCurve.Point

/-! ## Pairs of coordinates -/

namespace Point

/-- A pair of coordinates stands for an element of the group. -/
structure Denotes (p : Point) (P : CurveGroup) : Prop where
  x : p.x.toField = P.x
  y : p.y.toField = P.y

theorem onCurve_iff (p : Point) : p.OnCurve ↔ edwards25519.Equation p.x.toField p.y.toField := by
  rw [OnCurve, EdwardsCurve.Equation, ← toField_inj]
  simp [edwards25519]

theorem onCurve_iff_denotes (p : Point) : p.OnCurve ↔ ∃ P, p.Denotes P := by
  rw [onCurve_iff]
  constructor
  · intro h
    exact ⟨⟨_, _, h⟩, rfl, rfl⟩
  · rintro ⟨P, hx, hy⟩
    rw [hx, hy]
    exact P.equation

variable {p q : Point} {P Q : CurveGroup}

theorem Denotes.onCurve (h : p.Denotes P) : p.OnCurve := (onCurve_iff_denotes p).mpr ⟨P, h⟩

/-- Pairs that stand for elements are equal if and only if the elements are. -/
theorem Denotes.eq_iff (hp : p.Denotes P) (hq : q.Denotes Q) : p = q ↔ P = Q := by
  rw [Point.mk.injEq, EdwardsCurve.Point.ext_iff, ← hp.x, ← hp.y, ← hq.x, ← hq.y, toField_inj,
    toField_inj]

theorem Denotes.identity : identity.Denotes 0 := ⟨toField_zero, toField_one⟩

theorem Denotes.neg (h : p.Denotes P) : p.neg.Denotes (-P) :=
  ⟨by rw [Point.neg, toField_neg, h.x, neg_x], by rw [Point.neg, h.y, neg_y]⟩

theorem Denotes.add (hp : p.Denotes P) (hq : q.Denotes Q) : (p.add q).Denotes (P + Q) := by
  constructor
  · rw [add_x, cross, ← hp.x, ← hp.y, ← hq.x, ← hq.y, div_eq_mul_inv]
    simp [Point.add, edwards25519]
  · rw [add_y, cross, ← hp.x, ← hp.y, ← hq.x, ← hq.y, div_eq_mul_inv]
    simp [Point.add, edwards25519]

/-- `n` times a point, by adding it over and over with the addition law. -/
def times (n : Nat) (p : Point) : Point := p.add^[n] Point.identity

theorem Denotes.times (h : p.Denotes P) (n : Nat) : (p.times n).Denotes (n • P) := by
  induction n with
  | zero =>
    rw [zero_nsmul]
    exact Denotes.identity
  | succ n ih =>
    rw [Point.times, Function.iterate_succ_apply', succ_nsmul']
    exact h.add ih

end Point

/-! ## Extended coordinates -/

namespace Extended

/-- Extended coordinates stand for an element of the group. -/
structure Denotes (e : Extended) (P : CurveGroup) : Prop where
  z_ne_zero : e.z.toField ≠ 0
  x : e.x.toField = P.x * e.z.toField
  y : e.y.toField = P.y * e.z.toField
  t : e.t.toField = P.x * P.y * e.z.toField

variable {e f : Extended} {P Q : CurveGroup}

theorem denotes_ofPoint {p : Point} (h : p.Denotes P) : (ofPoint p).Denotes P where
  z_ne_zero := by
    rw [ofPoint, toField_one]
    exact one_ne_zero
  x := by rw [ofPoint, toField_one, h.x, mul_one]
  y := by rw [ofPoint, toField_one, h.y, mul_one]
  t := by rw [ofPoint, toField_one, toField_mul, h.x, h.y, mul_one]

theorem Denotes.toPoint (h : e.Denotes P) : e.toPoint.Denotes P := by
  constructor
  · rw [Extended.toPoint, toField_mul, toField_inverse, h.x, mul_inv_cancel_right₀ h.z_ne_zero]
  · rw [Extended.toPoint, toField_mul, toField_inverse, h.y, mul_inv_cancel_right₀ h.z_ne_zero]

/-- **The addition law without division is the addition law.**  With `w = 2 z₁ z₂` and `t` the
product by which the denominators differ from one, the four intermediate values are `w` times the
numerators, `w (1 - t)` and `w (1 + t)`. -/
theorem Denotes.add (he : e.Denotes P) (hf : f.Denotes Q) : (Extended.add e f).Denotes (P + Q) := by
  have hx := add_x_mul P Q
  have hy := add_y_mul P Q
  have hw : 2 * e.z.toField * f.z.toField ≠ 0 :=
    mul_ne_zero (mul_ne_zero Coordinate.two_ne_zero he.z_ne_zero) hf.z_ne_zero
  constructor
  · have hz : (Extended.add e f).z.toField =
        2 * e.z.toField * f.z.toField * (1 - cross P Q) *
          (2 * e.z.toField * f.z.toField * (1 + cross P Q)) := by
      simp only [Extended.add, toField_mul, toField_sub, toField_add, toField_two, he.t, hf.t,
        cross, edwards25519]
      ring
    rw [hz]
    exact mul_ne_zero (mul_ne_zero hw (one_sub_cross_ne_zero P Q))
      (mul_ne_zero hw (one_add_cross_ne_zero P Q))
  all_goals
    simp only [Extended.add, toField_mul, toField_sub, toField_add, toField_two, he.x, he.y, he.t,
      hf.x, hf.y, hf.t]
    simp only [cross, edwards25519] at hx hy
  · linear_combination
      -(4 * e.z.toField ^ 2 * f.z.toField ^ 2 *
        (1 - coefficient.toField * (P.x * Q.x) * (P.y * Q.y))) * hx
  · linear_combination
      -(4 * e.z.toField ^ 2 * f.z.toField ^ 2 *
        (1 + coefficient.toField * (P.x * Q.x) * (P.y * Q.y))) * hy
  · linear_combination
      -(4 * e.z.toField ^ 2 * f.z.toField ^ 2 * (P.y * Q.y + P.x * Q.x)) * hx -
      4 * e.z.toField ^ 2 * f.z.toField ^ 2 * (P + Q).x *
        (1 + coefficient.toField * (P.x * Q.x) * (P.y * Q.y)) * hy

theorem denotes_multiple {p : Point} (h : p.Denotes P) (n : Nat) :
    (multiple n p).Denotes (n • P) := by
  refine combine_copies (R := fun k (e : Extended) ↦ e.Denotes (k • P)) ?_ ?_ ?_ n
  · rw [zero_nsmul]
    exact denotes_ofPoint Point.Denotes.identity
  · rw [one_nsmul]
    exact denotes_ofPoint h
  · intro k l a b ha hb
    rw [add_nsmul]
    exact ha.add hb

end Extended

namespace Point

variable {p : Point} {P : CurveGroup}

/-- **Multiples by doubling are the multiples of the group.** -/
theorem Denotes.multiple (h : p.Denotes P) (n : Nat) : (p.multiple n).Denotes (n • P) :=
  (Extended.denotes_multiple h n).toPoint

/-- On the curve, doubling and adding over and over arrive at the same multiple. -/
theorem multiple_eq_times (h : p.OnCurve) (n : Nat) : p.multiple n = p.times n := by
  obtain ⟨P, hP⟩ := (onCurve_iff_denotes p).mp h
  rw [(hP.multiple n).eq_iff (hP.times n)]

theorem Denotes.hasSmallOrder_iff (h : p.Denotes P) : p.hasSmallOrder = true ↔ 8 • P = 0 := by
  rw [hasSmallOrder, beq_iff_eq, (h.multiple 8).eq_iff Denotes.identity]

end Point

/-! ## The base point -/

theorem onCurve_base : Point.base.OnCurve := by decide +kernel

/-- The base point, as an element of the group. -/
noncomputable def generator : CurveGroup :=
  ⟨_, _, (Point.onCurve_iff Point.base).mp onCurve_base⟩

theorem denotes_base : Point.base.Denotes generator := ⟨rfl, rfl⟩

theorem multiple_groupOrder_base : Point.base.multiple groupOrder = Point.identity := by
  decide +kernel

/-- **The base point has order `groupOrder`.** -/
theorem addOrderOf_generator : addOrderOf generator = groupOrder := by
  refine addOrderOf_eq_prime ?_ ?_
  · rw [← (denotes_base.multiple groupOrder).eq_iff Point.Denotes.identity]
    exact multiple_groupOrder_base
  · rw [ne_eq, ← denotes_base.eq_iff Point.Denotes.identity]
    decide +kernel

end HexSigner.Curve
