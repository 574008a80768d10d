/-!
# Double precision numbers

Documents of settings may contain numbers with a fraction.  The signer has no use for them, but it
names them in its messages, so it has to know which number of the double format a text stands for.

Every finite double is a multiple of the smallest positive one, `2 ^ -1074`, so a magnitude is kept
as a natural number of these *units*.  A number of units is a double when it is a multiple of
`spacing`, the distance between neighbouring doubles of its size.

* `nearest` rounds a quotient of natural numbers of units to a double, a half to the even neighbour;
* `product` and `quotient` are the operations that texts are read with, both correctly rounded.
-/

set_option autoImplicit false

namespace HexSigner

/-- A number of the double format. -/
inductive Binary64 where
  | nan
  | infinite (negative : Bool)
  /-- The number with the given sign and magnitude, in units of `2 ^ -1074`. -/
  | finite (negative : Bool) (units : Nat)
deriving DecidableEq, Repr

namespace Binary64

/-- The number of units in one. -/
def one : Nat := Nat.pow 2 1074

/-- The least number of units that is too large for a double. -/
def overflow : Nat := Nat.pow 2 2098

/-- The distance between neighbouring doubles at a magnitude, in units. -/
def spacing (units : Nat) : Nat := Nat.pow 2 (units.log2 - 52)

/-- The integer nearest to a quotient; a half goes to the even neighbour. -/
def nearestInteger (num den : Nat) : Nat :=
  let q := num / den
  let twice := 2 * (num % den)
  if twice < den then q else if den < twice then q + 1 else q + q % 2

/-- The double nearest to a quotient of units, which may be as large as `overflow`. -/
def nearest (num den : Nat) : Nat :=
  let step := spacing (num / den)
  nearestInteger num (den * step) * step

/-- The double nearest to a natural number. -/
def ofNat (n : Nat) : Nat := nearest (n * one) 1

/-- The product of two magnitudes. -/
def product (a b : Nat) : Nat := nearest (a * b) one

/-- The quotient of two magnitudes. -/
def quotient (a b : Nat) : Nat := nearest (a * one) b

/-- The double with a sign and a magnitude that was rounded; what is too large is infinite. -/
def ofUnits (negative : Bool) (units : Nat) : Binary64 :=
  if units < overflow then .finite negative units else .infinite negative

/-- The double nearest to `digits * 10 ^ exponent`, in units.  Outside of the range of doubles the
power is not computed, as a short text can ask for a very large one. -/
def ofDecimal (digits : Nat) (exponent : Int) : Nat :=
  let size : Int := (Nat.toDigits 10 digits).length + exponent
  if digits = 0 ∨ size < -400 then 0
  else if 400 < size then overflow
  else if 0 ≤ exponent then nearest (digits * Nat.pow 10 exponent.toNat * one) 1
  else nearest (digits * one) (Nat.pow 10 (-exponent).toNat)

end Binary64

end HexSigner
