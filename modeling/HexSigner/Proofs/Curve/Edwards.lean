import Mathlib.Algebra.Field.Basic
import Mathlib.Algebra.Group.Even
import Mathlib.Tactic.FieldSimp
import Mathlib.Tactic.LinearCombination
import Mathlib.Tactic.Ring

/-!
# The group of a complete Edwards curve

The points of a curve `-x² + y² = 1 + d x² y²` over a field form a commutative group under

```text
(x₁, y₁) + (x₂, y₂) = ((x₁y₂ + y₁x₂) / (1 + t), (y₁y₂ + x₁x₂) / (1 - t)),   t = d x₁x₂y₁y₂,
```

provided that minus one is a square in the field and `d` is not.  That proviso is what an
`EdwardsCurve` carries.  It is needed for one thing only: `t` is then never `1` or `-1`
(`cross_ne`), so the law has no exceptional cases and every law of a group is an identity between
fractions whose denominators do not vanish.

All of these are short except associativity.  There the sum of three points is brought to a common
denominator (`sum_x_mul`, `sum_y_mul`), which leaves one polynomial identity modulo the equations
of the three points.  It is enough to check it for the first coordinate (`triple_identity`): the
rotation `(x, y) ↦ (i y, i x)` by a point of order four turns the second coordinate into the first.
-/

set_option autoImplicit false

namespace HexSigner

/-- A curve `-x² + y² = 1 + d x² y²` whose addition law has no exceptional cases. -/
structure EdwardsCurve (F : Type*) [Field F] where
  /-- The coefficient of the curve. -/
  d : F
  /-- A square root of minus one. -/
  i : F
  i_mul_i : i * i = -1
  not_isSquare_d : ¬IsSquare d
  two_ne_zero : (2 : F) ≠ 0

namespace EdwardsCurve

variable {F : Type*} [Field F]

/-- The equation of the curve. -/
def Equation (C : EdwardsCurve F) (x y : F) : Prop :=
  -(x * x) + y * y = 1 + C.d * (x * x) * (y * y)

/-- A point of the curve. -/
@[ext] structure Point (C : EdwardsCurve F) where
  x : F
  y : F
  equation : C.Equation x y

variable {C : EdwardsCurve F}

theorem i_ne_zero (C : EdwardsCurve F) : C.i ≠ 0 := by
  intro h
  have hi := C.i_mul_i
  rw [h, mul_zero] at hi
  exact one_ne_zero (neg_eq_zero.mp hi.symm)

/-! ## Denominators do not vanish -/

/-- If `t` is a sign `e`, then the square of `i x₁ + e y₁` is `d` times a square. -/
theorem sq_of_cross_eq {x₁ y₁ x₂ y₂ e : F} (h₁ : C.Equation x₁ y₁) (h₂ : C.Equation x₂ y₂)
    (he : e * e = 1) (ht : C.d * (x₁ * x₂) * (y₁ * y₂) = e) :
    (C.i * x₁ + e * y₁) * (C.i * x₁ + e * y₁) =
      C.d * ((x₁ * y₁ * (C.i * x₂ + y₂)) * (x₁ * y₁ * (C.i * x₂ + y₂))) := by
  have hi := C.i_mul_i
  simp only [Equation] at h₁ h₂
  linear_combination h₁ - C.d * x₁ * x₁ * y₁ * y₁ * h₂ +
    (x₁ * x₁ - C.d * x₁ * x₁ * y₁ * y₁ * x₂ * x₂) * hi + (y₁ * y₁ - 1) * he -
    (2 * C.i * x₁ * y₁ + C.d * (x₁ * x₂) * (y₁ * y₂) + e) * ht

/-- A number whose product with a nonzero square is a square is itself a square. -/
theorem isSquare_of_mul_eq {d s u : F} (hs : s ≠ 0) (h : u * u = d * (s * s)) : IsSquare d := by
  refine ⟨u / s, ?_⟩
  field_simp
  linear_combination -h

/-- **The addition law is complete**: `d x₁x₂y₁y₂` is never a sign. -/
theorem cross_ne {x₁ y₁ x₂ y₂ e : F} (h₁ : C.Equation x₁ y₁) (h₂ : C.Equation x₂ y₂)
    (he : e * e = 1) : C.d * (x₁ * x₂) * (y₁ * y₂) ≠ e := by
  intro ht
  have hne : C.d * (x₁ * x₂) * (y₁ * y₂) ≠ 0 := by
    rw [ht]
    intro h0
    rw [h0, mul_zero] at he
    exact zero_ne_one he
  have hx₁ : x₁ ≠ 0 := by rintro rfl; simp at hne
  have hy₁ : y₁ ≠ 0 := by rintro rfl; simp at hne
  have hy₂ : y₂ ≠ 0 := by rintro rfl; simp at hne
  -- the same holds of the opposite of the second point, and one of the two factors is not zero
  by_cases hs : C.i * x₂ + y₂ = 0
  · have hs' : C.i * x₂ + -y₂ ≠ 0 := by
      intro h0
      have h2 : 2 * y₂ = 0 := by linear_combination hs - h0
      exact hy₂ ((mul_eq_zero.mp h2).resolve_left C.two_ne_zero)
    have h₂' : C.Equation x₂ (-y₂) := by rw [Equation, neg_mul_neg]; exact h₂
    have hsq := sq_of_cross_eq (e := -e) h₁ h₂' (by rw [neg_mul_neg, he])
      (by linear_combination -ht)
    exact C.not_isSquare_d (isSquare_of_mul_eq (mul_ne_zero (mul_ne_zero hx₁ hy₁) hs') hsq)
  · have hsq := sq_of_cross_eq h₁ h₂ he ht
    exact C.not_isSquare_d (isSquare_of_mul_eq (mul_ne_zero (mul_ne_zero hx₁ hy₁) hs) hsq)

namespace Point

/-- The product `d x₁x₂y₁y₂` by which the two denominators of a sum differ from one. -/
def cross (p q : C.Point) : F := C.d * (p.x * q.x) * (p.y * q.y)

theorem cross_comm (p q : C.Point) : cross p q = cross q p := by
  rw [cross, cross]; ring

theorem one_add_cross_ne_zero (p q : C.Point) : 1 + cross p q ≠ 0 := by
  intro h
  exact cross_ne p.equation q.equation (e := -1) (by ring) (by rw [← cross]; linear_combination h)

theorem one_sub_cross_ne_zero (p q : C.Point) : 1 - cross p q ≠ 0 := by
  intro h
  exact cross_ne p.equation q.equation (e := 1) (by ring) (by rw [← cross]; linear_combination -h)

/-! ## The operations -/

/-- The neutral point. -/
instance : Zero C.Point := ⟨⟨0, 1, by simp [Equation]⟩⟩

/-- The opposite point. -/
instance : Neg C.Point := ⟨fun p ↦ ⟨-p.x, p.y, by rw [Equation, neg_mul_neg]; exact p.equation⟩⟩

theorem equation_add (p q : C.Point) :
    C.Equation ((p.x * q.y + p.y * q.x) / (1 + cross p q))
      ((p.y * q.y + p.x * q.x) / (1 - cross p q)) := by
  have h₁ := p.equation
  have h₂ := q.equation
  have hp := one_add_cross_ne_zero p q
  have hm := one_sub_cross_ne_zero p q
  rw [Equation] at h₁ h₂ ⊢
  field_simp
  -- write `u` and `v` for the left sides of the two equations and `1 + a`, `1 + b` for their right
  -- sides; since `a b` is the square of `cross p q`, what is left is
  -- `u v (1 + a b) = (1 - a b)² + a v² + b u²`
  simp only [cross]
  linear_combination
    ((q.y ^ 2 - q.x ^ 2) * (1 + C.d ^ 2 * p.x ^ 2 * q.x ^ 2 * p.y ^ 2 * q.y ^ 2) -
      C.d * q.x ^ 2 * q.y ^ 2 * (p.y ^ 2 - p.x ^ 2 + 1 + C.d * p.x ^ 2 * p.y ^ 2)) * h₁ +
    ((1 + C.d * p.x ^ 2 * p.y ^ 2) * (1 + C.d ^ 2 * p.x ^ 2 * q.x ^ 2 * p.y ^ 2 * q.y ^ 2) -
      C.d * p.x ^ 2 * p.y ^ 2 * (q.y ^ 2 - q.x ^ 2 + 1 + C.d * q.x ^ 2 * q.y ^ 2)) * h₂

/-- The sum of two points. -/
instance : Add C.Point := ⟨fun p q ↦ ⟨_, _, equation_add p q⟩⟩

@[simp] theorem zero_x : (0 : C.Point).x = 0 := rfl

@[simp] theorem zero_y : (0 : C.Point).y = 1 := rfl

@[simp] theorem neg_x (p : C.Point) : (-p).x = -p.x := rfl

@[simp] theorem neg_y (p : C.Point) : (-p).y = p.y := rfl

theorem add_x (p q : C.Point) : (p + q).x = (p.x * q.y + p.y * q.x) / (1 + cross p q) := rfl

theorem add_y (p q : C.Point) : (p + q).y = (p.y * q.y + p.x * q.x) / (1 - cross p q) := rfl

theorem add_x_mul (p q : C.Point) : (p + q).x * (1 + cross p q) = p.x * q.y + p.y * q.x := by
  rw [add_x, div_mul_cancel₀ _ (one_add_cross_ne_zero p q)]

theorem add_y_mul (p q : C.Point) : (p + q).y * (1 - cross p q) = p.y * q.y + p.x * q.x := by
  rw [add_y, div_mul_cancel₀ _ (one_sub_cross_ne_zero p q)]

end Point

/-! ## Associativity -/

/-- The first coordinate of a sum of three points, over the common denominator. -/
def tripleX (C : EdwardsCurve F) (x₁ y₁ x₂ y₂ x₃ y₃ : F) : F :=
  (x₁ * y₂ + y₁ * x₂) * (1 - C.d * (x₁ * x₂) * (y₁ * y₂)) * y₃ +
    (y₁ * y₂ + x₁ * x₂) * (1 + C.d * (x₁ * x₂) * (y₁ * y₂)) * x₃

/-- The common denominator of the first coordinate of a sum of three points. -/
def tripleZ (C : EdwardsCurve F) (x₁ y₁ x₂ y₂ x₃ y₃ : F) : F :=
  (1 - C.d * (x₁ * x₂) * (y₁ * y₂)) * (1 + C.d * (x₁ * x₂) * (y₁ * y₂)) +
    C.d * (x₁ * y₂ + y₁ * x₂) * (y₁ * y₂ + x₁ * x₂) * (x₃ * y₃)

/-- The identity behind associativity.  The two sides differ by multiples of the equations of the
three points, found by dividing by the terms `d x² y²` of these equations. -/
theorem triple_identity {x₁ y₁ x₂ y₂ x₃ y₃ : F} (h₁ : C.Equation x₁ y₁) (h₂ : C.Equation x₂ y₂)
    (h₃ : C.Equation x₃ y₃) :
    tripleX C x₁ y₁ x₂ y₂ x₃ y₃ * tripleZ C x₃ y₃ x₂ y₂ x₁ y₁ =
      tripleX C x₃ y₃ x₂ y₂ x₁ y₁ * tripleZ C x₁ y₁ x₂ y₂ x₃ y₃ := by
  simp only [tripleX, tripleZ, Equation] at h₁ h₂ h₃ ⊢
  linear_combination
    C.d * x₂ * y₂ *
      (x₁ * x₂ * y₂ ^ 2 * y₃ ^ 3 - C.d * x₁ * x₂ ^ 3 * y₂ ^ 2 * x₃ ^ 2 * y₃ -
       x₁ * x₂ ^ 3 * x₃ ^ 2 * y₃ - C.d * x₁ * x₂ ^ 2 * y₂ ^ 3 * x₃ * y₃ ^ 2 -
       x₁ * x₂ ^ 2 * y₂ * x₃ ^ 3 - x₁ * x₂ ^ 2 * y₂ * x₃ - x₁ * x₂ * y₂ ^ 2 * y₃ +
       x₁ * y₂ ^ 3 * x₃ * y₃ ^ 2 + C.d * y₁ * x₂ ^ 3 * y₂ ^ 2 * x₃ * y₃ ^ 2 +
       y₁ * x₂ ^ 3 * x₃ * y₃ ^ 2 + C.d * y₁ * x₂ ^ 2 * y₂ ^ 3 * x₃ ^ 2 * y₃ +
       y₁ * x₂ ^ 2 * y₂ * y₃ ^ 3 - y₁ * x₂ ^ 2 * y₂ * y₃ - y₁ * x₂ * y₂ ^ 2 * x₃ ^ 3 -
       y₁ * x₂ * y₂ ^ 2 * x₃ - y₁ * y₂ ^ 3 * x₃ ^ 2 * y₃) * h₁ +
    C.d * x₂ * y₂ *
      (x₁ ^ 3 * x₂ * x₃ ^ 2 * y₃ + x₁ ^ 3 * y₂ * x₃ * y₃ ^ 2 - x₁ ^ 2 * y₁ * x₂ * x₃ ^ 3 -
       x₁ ^ 2 * y₁ * x₂ * x₃ - x₁ ^ 2 * y₁ * y₂ * y₃ ^ 3 + x₁ ^ 2 * y₁ * y₂ * y₃ -
       x₁ * y₁ ^ 2 * x₂ * y₃ ^ 3 + x₁ * y₁ ^ 2 * x₂ * y₃ - x₁ * y₁ ^ 2 * y₂ * x₃ ^ 3 -
       x₁ * y₁ ^ 2 * y₂ * x₃ + x₁ * x₂ * x₃ ^ 2 * y₃ + x₁ * y₂ * x₃ * y₃ ^ 2 +
       y₁ ^ 3 * x₂ * x₃ * y₃ ^ 2 + y₁ ^ 3 * y₂ * x₃ ^ 2 * y₃ - y₁ * x₂ * x₃ * y₃ ^ 2 -
       y₁ * y₂ * x₃ ^ 2 * y₃) * h₂ +
    C.d * x₂ * y₂ *
      (x₁ ^ 3 * x₂ ^ 2 * y₂ * x₃ + x₁ ^ 3 * x₂ * y₂ ^ 2 * y₃ +
       C.d * x₁ ^ 2 * y₁ * x₂ ^ 3 * y₂ ^ 2 * x₃ + x₁ ^ 2 * y₁ * x₂ ^ 3 * x₃ -
       C.d * x₁ ^ 2 * y₁ * x₂ ^ 2 * y₂ ^ 3 * y₃ + x₁ ^ 2 * y₁ * y₂ ^ 3 * y₃ -
       C.d * x₁ * y₁ ^ 2 * x₂ ^ 3 * y₂ ^ 2 * y₃ - x₁ * y₁ ^ 2 * x₂ ^ 3 * y₃ +
       C.d * x₁ * y₁ ^ 2 * x₂ ^ 2 * y₂ ^ 3 * x₃ - x₁ * y₁ ^ 2 * y₂ ^ 3 * x₃ +
       x₁ * x₂ ^ 2 * y₂ * x₃ + x₁ * x₂ * y₂ ^ 2 * y₃ - y₁ ^ 3 * x₂ ^ 2 * y₂ * y₃ -
       y₁ ^ 3 * x₂ * y₂ ^ 2 * x₃ + y₁ * x₂ ^ 2 * y₂ * y₃ + y₁ * x₂ * y₂ ^ 2 * x₃) * h₃

namespace Point

theorem add_comm' (p q : C.Point) : p + q = q + p := by
  ext
  · rw [add_x, add_x, cross_comm]
    ring
  · rw [add_y, add_y, cross_comm]
    ring

theorem zero_add' (p : C.Point) : 0 + p = p := by
  ext
  · simp [add_x, cross]
  · simp [add_y, cross]

theorem neg_add' (p : C.Point) : -p + p = 0 := by
  have h := p.equation
  rw [Equation] at h
  ext
  · rw [add_x, zero_x, div_eq_zero_iff]
    left
    rw [neg_x, neg_y]
    ring
  · rw [add_y, div_eq_iff (one_sub_cross_ne_zero _ _), cross, neg_x, neg_y, zero_y]
    linear_combination h

theorem tripleZ_eq (p q r : C.Point) :
    tripleZ C p.x p.y q.x q.y r.x r.y =
      (1 - cross p q) * (1 + cross p q) * (1 + cross (p + q) r) := by
  have hx := add_x_mul p q
  have hy := add_y_mul p q
  rw [cross] at hx hy
  simp only [tripleZ, cross]
  linear_combination
    -(C.d * (r.x * r.y) * (p + q).y * (1 - C.d * (p.x * q.x) * (p.y * q.y))) * hx -
    C.d * (r.x * r.y) * (p.x * q.y + p.y * q.x) * hy

theorem tripleZ_ne_zero (p q r : C.Point) : tripleZ C p.x p.y q.x q.y r.x r.y ≠ 0 := by
  rw [tripleZ_eq]
  exact mul_ne_zero (mul_ne_zero (one_sub_cross_ne_zero p q) (one_add_cross_ne_zero p q))
    (one_add_cross_ne_zero _ r)

/-- The first coordinate of a sum of three points is `tripleX` over `tripleZ`. -/
theorem add_add_x_mul (p q r : C.Point) :
    (p + q + r).x * tripleZ C p.x p.y q.x q.y r.x r.y = tripleX C p.x p.y q.x q.y r.x r.y := by
  have hx := add_x_mul p q
  have hy := add_y_mul p q
  have hsum := add_x_mul (p + q) r
  rw [tripleZ_eq]
  rw [cross] at hx hy
  simp only [tripleX, cross] at hsum ⊢
  linear_combination
    (1 - C.d * (p.x * q.x) * (p.y * q.y)) * (1 + C.d * (p.x * q.x) * (p.y * q.y)) * hsum +
    (1 - C.d * (p.x * q.x) * (p.y * q.y)) * r.y * hx +
    (1 + C.d * (p.x * q.x) * (p.y * q.y)) * r.x * hy

theorem add_assoc_x (p q r : C.Point) : (p + q + r).x = (p + (q + r)).x := by
  have hl := add_add_x_mul p q r
  have hr := add_add_x_mul r q p
  rw [add_comm' r q, add_comm' (q + r) p] at hr
  refine mul_right_cancel₀ (mul_ne_zero (tripleZ_ne_zero p q r) (tripleZ_ne_zero r q p)) ?_
  calc (p + q + r).x * (tripleZ C p.x p.y q.x q.y r.x r.y * tripleZ C r.x r.y q.x q.y p.x p.y)
      = tripleX C p.x p.y q.x q.y r.x r.y * tripleZ C r.x r.y q.x q.y p.x p.y := by
        rw [← mul_assoc, hl]
    _ = tripleX C r.x r.y q.x q.y p.x p.y * tripleZ C p.x p.y q.x q.y r.x r.y :=
        triple_identity p.equation q.equation r.equation
    _ = (p + (q + r)).x *
          (tripleZ C p.x p.y q.x q.y r.x r.y * tripleZ C r.x r.y q.x q.y p.x p.y) := by
        rw [← hr]
        ring

/-- Adding a point of order four exchanges the coordinates up to a factor. -/
def rotate (p : C.Point) : C.Point where
  x := C.i * p.y
  y := C.i * p.x
  equation := by
    have h := p.equation
    rw [Equation] at h ⊢
    linear_combination h + (p.x * p.x - p.y * p.y -
      C.d * (p.x * p.x) * (p.y * p.y) * (C.i * C.i - 1)) * C.i_mul_i

theorem add_rotate (p q : C.Point) : p + rotate q = rotate (p + q) := by
  have hc : cross p (rotate q) = -cross p q := by
    simp only [cross, rotate]
    linear_combination C.d * (p.x * q.x) * (p.y * q.y) * C.i_mul_i
  ext
  · rw [add_x, hc]
    simp only [rotate, add_y]
    ring
  · rw [add_y, hc]
    simp only [rotate, add_x]
    ring

theorem add_assoc' (p q r : C.Point) : p + q + r = p + (q + r) := by
  ext
  · exact add_assoc_x p q r
  · have h := add_assoc_x p q (rotate r)
    rw [add_rotate, add_rotate, add_rotate] at h
    exact mul_left_cancel₀ C.i_ne_zero h

/-- **The points of the curve form a commutative group.** -/
instance : AddCommGroup C.Point where
  add_assoc := add_assoc'
  zero_add := zero_add'
  add_zero p := by rw [add_comm', zero_add']
  neg_add_cancel := neg_add'
  add_comm := add_comm'
  nsmul := nsmulRec
  zsmul := zsmulRec

end Point

end EdwardsCurve

end HexSigner
