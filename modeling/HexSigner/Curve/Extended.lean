import HexSigner.Curve.Point

/-!
# Points in extended coordinates

The addition law divides.  Extended coordinates put the division off: a point is `(x, y, z, t)` with
`x / z` and `y / z` its coordinates and `t = x y / z`, and points are added with products only.  A
multiple of a point then costs one division, at the end.
-/

set_option autoImplicit false

namespace HexSigner.Curve

/-- A point in extended coordinates. -/
structure Extended where
  x : Coordinate
  y : Coordinate
  z : Coordinate
  t : Coordinate
deriving DecidableEq

namespace Extended

/-- The extended coordinates of a point. -/
def ofPoint (p : Point) : Extended := ⟨p.x, p.y, 1, p.x * p.y⟩

/-- The point with these extended coordinates. -/
def toPoint (e : Extended) : Point :=
  let w := e.z.inverse
  ⟨e.x * w, e.y * w⟩

/-- The addition law without division. -/
def add (p q : Extended) : Extended :=
  let a := (p.y - p.x) * (q.y - q.x)
  let b := (p.y + p.x) * (q.y + q.x)
  let c := 2 * coefficient * p.t * q.t
  let d := 2 * p.z * q.z
  let e := b - a
  let f := d - c
  let g := d + c
  let h := b + a
  ⟨e * f, g * h, f * g, e * h⟩

/-- `n` times a point. -/
def multiple (n : Nat) (p : Point) : Extended :=
  combine add (ofPoint Point.identity) (ofPoint p) n

end Extended

namespace Point

/-- `n` times a point. -/
def multiple (n : Nat) (p : Point) : Point := (Extended.multiple n p).toPoint

/-- A point has small order if eight times it is the neutral point. -/
def hasSmallOrder (p : Point) : Bool := p.multiple 8 == identity

end Point

end HexSigner.Curve
