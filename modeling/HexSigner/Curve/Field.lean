import HexSigner.Repeated

/-!
# The coordinate field of the curve

Coordinates are integers modulo the prime `2 ^ 255 - 19`.  Sums, differences and products are those
of `Fin`; this file adds powers, inverses and square roots.

The prime leaves remainder 5 modulo 8, which is what makes the square root cheap: a power of a
quotient of squares is a square root of it up to sign or up to a square root of minus one.
`rootOfRatio?` tries both and answers `none` if neither squares to the quotient.
-/

set_option autoImplicit false

namespace HexSigner.Curve

/-- The order of the field. -/
def prime : Nat := Nat.pow 2 255 - 19

instance : @NeZero Nat Zero.ofOfNat0 prime := ⟨by decide⟩

/-- A coordinate of a point: an integer modulo the prime. -/
abbrev Coordinate : Type := Fin prime

namespace Coordinate

/-- The `n`-th power. -/
def power (x : Coordinate) (n : Nat) : Coordinate := combine (· * ·) 1 x n

/-- The inverse, and zero for zero. -/
def inverse (x : Coordinate) : Coordinate := x.power (prime - 2)

/-- A coordinate is called negative if its least representative is odd. -/
def isNegative (x : Coordinate) : Bool := x.val % 2 == 1

/-- Whichever of `x` and `-x` is not negative. -/
def absolute (x : Coordinate) : Coordinate := if x.isNegative then -x else x

/-- A square root of minus one. -/
def rootOfMinusOne : Coordinate :=
  19681161376707505956807079304988542015446066515923890162744021073123829784752

/-- The square root of `u / v` that is not negative, if there is one. -/
def rootOfRatio? (u v : Coordinate) : Option Coordinate :=
  let v3 := v * v * v
  let candidate := u * v3 * (u * (v3 * v3 * v)).power ((prime - 5) / 8)
  let check := v * (candidate * candidate)
  if check = u then some candidate.absolute
  else if check = -u then some (candidate * rootOfMinusOne).absolute
  else none

end Coordinate

end HexSigner.Curve
