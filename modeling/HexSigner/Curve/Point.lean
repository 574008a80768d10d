import HexSigner.Curve.Field
import HexSigner.Octets

/-!
# Points of the curve

The curve is the twisted Edwards curve `-x² + y² = 1 + d x² y²` over the field of
`Curve.prime` elements.  Its addition law has no exceptional cases on the curve, so a point is just
a pair of coordinates.

A point is written as 32 bytes: the coordinate `y`, with the sign of `x` in the highest bit.
Reading recovers `x` from the equation of the curve.  Reading is more generous than writing in two
ways: a `y` that was not reduced modulo the prime is reduced, and a sign on `x = 0` is ignored.

Multiples of the base point repeat after `groupOrder` steps, so the numbers that points are
multiplied by, the scalars, are taken modulo that prime.  Secret scalars are clamped first: made a
multiple of eight with bit 254 as the highest.
-/

set_option autoImplicit false

namespace HexSigner.Curve

/-- A pair of coordinates. -/
structure Point where
  x : Coordinate
  y : Coordinate
deriving DecidableEq

/-- The coefficient `-121665 / 121666` of the curve. -/
def coefficient : Coordinate :=
  37095705934669439343138083508754565189542113879843219016388785533085940283555

namespace Point

/-- The equation of the curve. -/
def OnCurve (p : Point) : Prop :=
  -(p.x * p.x) + p.y * p.y = 1 + coefficient * (p.x * p.x) * (p.y * p.y)

instance (p : Point) : Decidable p.OnCurve := inferInstanceAs (Decidable (_ = _))

/-- The neutral point. -/
def identity : Point := ⟨0, 1⟩

/-- The base point. -/
def base : Point where
  x := 15112221349535400772501151409588531511454012693041857206046113283949847762202
  y := 46316835694926478169428394003475163141307993866256225615783033603165251855960

/-- The opposite point. -/
def neg (p : Point) : Point := ⟨-p.x, p.y⟩

/-- The addition law. -/
def add (p q : Point) : Point :=
  let t := coefficient * (p.x * q.x) * (p.y * q.y)
  ⟨(p.x * q.y + p.y * q.x) * (1 + t).inverse, (p.y * q.y + p.x * q.x) * (1 - t).inverse⟩

/-- The encoding of a point. -/
def encode (p : Point) : Octets 32 :=
  Octets.ofNat 32 (p.y.val + if p.x.isNegative then Nat.pow 2 255 else 0)

/-- The point with a given `y` whose `x` has the given sign, if there is one. -/
def ofY? (y : Coordinate) (negative : Bool) : Option Point :=
  (Coordinate.rootOfRatio? (y * y - 1) (coefficient * (y * y) + 1)).map fun x ↦
    ⟨if negative then -x else x, y⟩

/-- The point that 32 bytes encode, if they encode one. -/
def decode? (bytes : Octets 32) : Option Point :=
  let n := bytes.toNat
  ofY? (Fin.ofNat prime (n % Nat.pow 2 255)) (Nat.pow 2 255 ≤ n)

end Point

/-! ## Scalars -/

/-- The order of the base point. -/
def groupOrder : Nat := Nat.pow 2 252 + 27742317777372353535851937790883648493

/-- Clamping: the lowest three bits are cleared, and of the bits from 254 on only bit 254 is set. -/
def clamp (n : Nat) : Nat := Nat.pow 2 254 + n % Nat.pow 2 254 / 8 * 8

end HexSigner.Curve
