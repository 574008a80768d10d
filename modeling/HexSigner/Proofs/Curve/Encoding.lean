import HexSigner.Proofs.Curve.Group
import HexSigner.Proofs.Octets

/-!
# Encodings of points

Reading 32 bytes finds a point exactly if the equation of the curve has a solution for the `y` that
the low 255 bits stand for modulo the prime (`Point.decode?_eq_some_iff`).  Reading undoes writing
on every point of the curve (`Point.decode?_encode`), so points with the same encoding are equal.

Writing does not undo reading, because reading is generous.  RFC 8032 is not: in its section 5.1.3 a
`y` that is not below the prime is refused, and so is a sign on `x = 0`.  `Rfc8032.Decodes` states
its rules.  Bytes that follow them are the encoding of their point and nothing else
(`Rfc8032.decodes_iff_eq_encode`), and `Rfc8032.Canonical` is what they ask of the bytes beyond what
reading asks (`Rfc8032.decodes_iff`).
-/

set_option autoImplicit false

namespace HexSigner.Curve

open Coordinate

/-! ## Two ways of reading -/

/-- How the signer reads a point: the low 255 bits of the bytes are `y` modulo the prime, and the
highest bit is the lowest bit of `x`, unless `x` is zero. -/
structure Generous.Decodes (bytes : Octets 32) (p : Point) : Prop where
  onCurve : p.OnCurve
  y : p.y.val = bytes.toNat % 2 ^ 255 % prime
  sign : p.x = 0 ∨ p.x.val % 2 = bytes.toNat / 2 ^ 255

/-- How RFC 8032 reads a point, in section 5.1.3: the low 255 bits of the bytes are `y`, which has
to be below the prime, and `x` is the solution of the equation whose lowest bit is the highest bit
of the bytes.  There is no point if there is no such solution, so a highest bit beside `x = 0` is
refused. -/
structure Rfc8032.Decodes (bytes : Octets 32) (p : Point) : Prop where
  reduced : bytes.toNat % 2 ^ 255 < prime
  y : p.y.val = bytes.toNat % 2 ^ 255
  onCurve : p.OnCurve
  sign : p.x.val % 2 = bytes.toNat / 2 ^ 255

/-- What RFC 8032 asks of the bytes beyond what the signer asks: `y` is reduced, and where `x` is
zero, which is where `y` is `1` or `-1`, the highest bit is clear. -/
structure Rfc8032.Canonical (bytes : Octets 32) : Prop where
  reduced : bytes.toNat % 2 ^ 255 < prime
  unsigned : bytes.toNat % 2 ^ 255 = 1 ∨ bytes.toNat % 2 ^ 255 = prime - 1 → bytes.toNat < 2 ^ 255

namespace Point

/-- The equation of the curve, solved for the square of `x`. -/
theorem onCurve_iff_mul_self (p : Point) :
    p.OnCurve ↔ (coefficient * (p.y * p.y) + 1) * (p.x * p.x) = p.y * p.y - 1 := by
  rw [OnCurve, ← toField_inj, ← toField_inj]
  simp only [toField_add, toField_neg, toField_mul, toField_sub, toField_one]
  constructor
  · intro h
    linear_combination -h
  · intro h
    linear_combination -h

/-- The quotient whose root reading takes never has the denominator zero. -/
theorem denominator_ne_zero (y : Coordinate) : coefficient * (y * y) + 1 ≠ 0 := by
  rw [← toField_inj.ne]
  simp only [toField_add, toField_mul, toField_one, toField_zero]
  intro h
  have hi : rootOfMinusOne.toField * rootOfMinusOne.toField = -1 := edwards25519.i_mul_i
  by_cases hy : y.toField = 0
  · rw [hy, mul_zero, mul_zero, zero_add] at h
    exact one_ne_zero h
  · refine not_isSquare_coefficient
      (EdwardsCurve.isSquare_of_mul_eq (u := rootOfMinusOne.toField) hy ?_)
    linear_combination hi - h

/-- On the curve `x` is zero at the neutral point and at the point of order two only. -/
theorem x_eq_zero_iff {p : Point} (h : p.OnCurve) :
    p.x = 0 ↔ p.y.val = 1 ∨ p.y.val = prime - 1 := by
  have hy : p.y * p.y = 1 ↔ p.y.val = 1 ∨ p.y.val = prime - 1 := by
    have hone : (1 : Coordinate).val = 1 := by decide +kernel
    have hminus : (-1 : Coordinate).val = prime - 1 := by decide +kernel
    rw [← hminus, ← hone, ← Fin.ext_iff, ← Fin.ext_iff, ← toField_inj, ← toField_inj,
      ← toField_inj, toField_mul, toField_neg, toField_one]
    exact mul_self_eq_one_iff
  rw [onCurve_iff_mul_self, ← toField_inj, toField_mul, toField_mul, toField_sub] at h
  have hne : (coefficient * (p.y * p.y) + 1).toField ≠ 0 := fun h ↦
    denominator_ne_zero p.y (toField_eq_zero.mp h)
  rw [← hy, ← toField_inj (x := p.y * p.y), ← sub_eq_zero (a := (p.y * p.y).toField), ← h,
    mul_eq_zero, or_iff_right hne, mul_self_eq_zero, toField_eq_zero]

/-! ## Reading -/

theorem neg_neg (x : Coordinate) : - -x = x := by
  rw [← toField_inj]
  simp

theorem ofY?_eq_some_iff {y : Coordinate} {negative : Bool} {p : Point} :
    ofY? y negative = some p ↔
      p.OnCurve ∧ p.y = y ∧ (p.x = 0 ∨ p.x.isNegative = negative) := by
  rw [ofY?, Option.map_eq_some_iff]
  constructor
  · rintro ⟨x, hx, rfl⟩
    rw [rootOfRatio?_eq_some_iff (denominator_ne_zero y)] at hx
    obtain ⟨hroot, hsign⟩ := hx
    cases negative with
    | false => exact ⟨(onCurve_iff_mul_self _).mpr hroot, rfl, Or.inr hsign⟩
    | true =>
      refine ⟨(onCurve_iff_mul_self _).mpr ?_, rfl, ?_⟩
      · rw [← hroot, ← toField_inj]
        simp
      · by_cases h0 : x = 0
        · left
          rw [if_pos rfl, h0]
          rfl
        · right
          rw [if_pos rfl, isNegative_neg h0, hsign]
          rfl
  · rintro ⟨hcurve, rfl, hsign⟩
    refine ⟨p.x.absolute, ?_, ?_⟩
    · rw [rootOfRatio?_eq_some_iff (denominator_ne_zero p.y), absolute_mul_absolute]
      exact ⟨(onCurve_iff_mul_self p).mp hcurve, isNegative_absolute p.x⟩
    · rw [Point.mk.injEq]
      refine ⟨?_, rfl⟩
      rcases hsign with h0 | hsign
      · rw [h0]
        cases negative <;> rfl
      · rw [absolute, hsign]
        cases negative with
        | false => rfl
        | true => exact neg_neg p.x

/-- **What reading accepts.** -/
theorem decode?_eq_some_iff {bytes : Octets 32} {p : Point} :
    decode? bytes = some p ↔ Generous.Decodes bytes p := by
  have hlt := bytes.toNat_lt
  rw [show (256 : Nat) ^ 32 = 2 * 2 ^ 255 by decide] at hlt
  have hsign : p.x.isNegative = decide (2 ^ 255 ≤ bytes.toNat) ↔
      p.x.val % 2 = bytes.toNat / 2 ^ 255 := by
    rw [isNegative, Bool.eq_iff_iff, beq_iff_eq, decide_eq_true_eq]
    omega
  have hdecode : decode? bytes =
      ofY? (Fin.ofNat prime (bytes.toNat % 2 ^ 255)) (2 ^ 255 ≤ bytes.toNat) := rfl
  rw [hdecode, ofY?_eq_some_iff, hsign, Fin.ext_iff, Fin.val_ofNat]
  exact ⟨fun h ↦ ⟨h.1, h.2.1, h.2.2⟩, fun h ↦ ⟨h.onCurve, h.y, h.sign⟩⟩

theorem onCurve_of_decode? {bytes : Octets 32} {p : Point} (h : decode? bytes = some p) :
    p.OnCurve := (decode?_eq_some_iff.mp h).onCurve

/-! ## Writing -/

theorem toNat_encode (p : Point) :
    p.encode.toNat = p.y.val + if p.x.isNegative then 2 ^ 255 else 0 := by
  have hlt : p.y.val < 2 ^ 255 := p.y.isLt.trans (by decide)
  refine Octets.toNat_ofNat_of_lt ?_
  rw [show (256 : Nat) ^ 32 = 2 ^ 255 + Nat.pow 2 255 by decide]
  split
  · exact Nat.add_lt_add_right hlt _
  · omega

theorem toNat_encode_mod (p : Point) : p.encode.toNat % 2 ^ 255 = p.y.val := by
  have hlt : p.y.val < 2 ^ 255 := p.y.isLt.trans (by decide)
  rw [toNat_encode]
  split <;> omega

theorem toNat_encode_div (p : Point) : p.encode.toNat / 2 ^ 255 = p.x.val % 2 := by
  have hlt : p.y.val < 2 ^ 255 := p.y.isLt.trans (by decide)
  rw [toNat_encode]
  split
  · rename_i h
    rw [isNegative, beq_iff_eq] at h
    omega
  · rename_i h
    rw [isNegative, beq_iff_eq] at h
    omega

/-- **Reading undoes writing.** -/
theorem decode?_encode {p : Point} (h : p.OnCurve) : decode? p.encode = some p := by
  rw [decode?_eq_some_iff]
  refine ⟨h, ?_, Or.inr ?_⟩
  · rw [toNat_encode_mod, Nat.mod_eq_of_lt p.y.isLt]
  · exact (toNat_encode_div p).symm

theorem encode_inj {p q : Point} (hp : p.OnCurve) (hq : q.OnCurve) :
    p.encode = q.encode ↔ p = q := by
  refine ⟨fun h ↦ ?_, fun h ↦ h ▸ rfl⟩
  have hd := decode?_encode hp
  rw [h, decode?_encode hq, Option.some_inj] at hd
  exact hd.symm

end Point

/-! ## The rules of RFC 8032 -/

namespace Rfc8032

theorem decodes_encode {p : Point} (h : p.OnCurve) : Decodes p.encode p where
  reduced := by
    rw [Point.toNat_encode_mod]
    exact p.y.isLt
  y := (Point.toNat_encode_mod p).symm
  onCurve := h
  sign := (Point.toNat_encode_div p).symm

theorem Decodes.eq_encode {bytes : Octets 32} {p : Point} (h : Decodes bytes p) :
    bytes = p.encode := by
  apply Octets.toNat_injective
  have hy := h.y
  have hsign := h.sign
  rw [Point.toNat_encode, isNegative]
  rcases Nat.mod_two_eq_zero_or_one p.x.val with hx | hx
  · rw [hx, if_neg (by decide)]
    omega
  · rw [hx, if_pos (by decide)]
    omega

/-- **Bytes that follow the rules are the encoding of their point.** -/
theorem decodes_iff_eq_encode {bytes : Octets 32} {p : Point} :
    Decodes bytes p ↔ p.OnCurve ∧ bytes = p.encode := by
  refine ⟨fun h ↦ ⟨h.onCurve, h.eq_encode⟩, ?_⟩
  rintro ⟨h, rfl⟩
  exact decodes_encode h

/-- **The rules are those of reading, for canonical bytes.** -/
theorem decodes_iff {bytes : Octets 32} {p : Point} :
    Decodes bytes p ↔ Point.decode? bytes = some p ∧ Canonical bytes := by
  constructor
  · intro h
    refine ⟨?_, h.reduced, fun hy ↦ ?_⟩
    · rw [h.eq_encode]
      exact Point.decode?_encode h.onCurve
    · have hsign := h.sign
      rw [← h.y, ← Point.x_eq_zero_iff h.onCurve] at hy
      rw [hy, Fin.val_zero] at hsign
      omega
  · rintro ⟨hd, hreduced, hunsigned⟩
    obtain ⟨hcurve, hy, hsign⟩ := Point.decode?_eq_some_iff.mp hd
    rw [Nat.mod_eq_of_lt hreduced] at hy
    refine ⟨hreduced, hy, hcurve, ?_⟩
    rcases hsign with hx | hsign
    · have hn := hunsigned (hy ▸ (Point.x_eq_zero_iff hcurve).mp hx)
      rw [hx, Fin.val_zero]
      omega
    · exact hsign

end Rfc8032

end HexSigner.Curve
