import HexSigner.Number.Binary64

/-!
# The shortest decimal of a double

A double is shown with as few digits as tell it from its neighbours.  The numbers that round to it
form an interval, which contains its ends when the significand is even.  For one digit, two digits
and so on, up to the seventeen that always suffice, `shortest` looks at the two neighbours of the
double on the grid of decimals with that many digits: the first grid with a neighbour in the
interval wins, and of two neighbours the nearer one.

Two notations are built on it.  They agree on numbers of a moderate size, and differ in how an exact
half between two decimals is resolved and in when they turn to an exponent.
-/

set_option autoImplicit false

namespace HexSigner

/-- The number `digits * 10 ^ exponent`. -/
structure Decimal where
  digits : Nat
  exponent : Int
deriving DecidableEq, Repr

namespace Decimal

/-- The digits in writing. -/
def text (d : Decimal) : List Char := Nat.toDigits 10 d.digits

/-- The place of the first digit: 0 for the ones, 1 for the tens, -1 for the tenths. -/
def leadingPlace (d : Decimal) : Int := d.text.length - 1 + d.exponent

/-- The decimal without zeros at its end; `fuel` bounds their number. -/
def trim : Nat → Decimal → Decimal
  | 0, d => d
  | fuel + 1, d =>
    if d.digits ≠ 0 ∧ d.digits % 10 = 0 then trim fuel ⟨d.digits / 10, d.exponent + 1⟩ else d

/-- A decimal written out without an exponent, with at least one digit after the point. -/
def positional (d : Decimal) : List Char :=
  let digits := d.text
  if 0 ≤ d.exponent then digits ++ List.replicate d.exponent.toNat '0' ++ ['.', '0']
  else
    let places := (-d.exponent).toNat
    if places < digits.length then
      digits.take (digits.length - places) ++ '.' :: digits.drop (digits.length - places)
    else ['0', '.'] ++ List.replicate (places - digits.length) '0' ++ digits

/-- A decimal with one digit before the point, and with the place of that digit as its exponent,
always with its sign. -/
def scientific (d : Decimal) : List Char :=
  let place := d.leadingPlace
  let mantissa := match d.text with
    | [] => []
    | [c] => [c]
    | c :: rest => c :: '.' :: rest
  mantissa ++ ['e', if place < 0 then '-' else '+'] ++ Nat.toDigits 10 place.natAbs

end Decimal

/-- What becomes of a double that is exactly half way between two shortest decimals. -/
inductive Tie where
  /-- The decimal with the even last digit is taken. -/
  | toEven
  /-- The larger decimal is taken. -/
  | upward
deriving DecidableEq, Repr

namespace Binary64

/-- The number of places before the decimal point of a magnitude; negative if it has zeros after
the point.  This is the least `k` such that the magnitude is below `10 ^ k`. -/
def places (units : Nat) : Int :=
  ((Nat.toDigits 10 (units * Nat.pow 10 400 / one)).length : Int) - 400

/-- The decimal of a magnitude on the grid of multiples of `10 ^ exponent`, if a neighbour of it on
that grid rounds to it. -/
def onGrid? (tie : Tie) (units : Nat) (exponent : Int) : Option Decimal :=
  let step := spacing units
  let even := units / step % 2 = 0
  -- Everything is compared in quarters of a unit, times the power of ten that clears fractions.
  let scale := Nat.pow 10 (-exponent).toNat
  let grid := 4 * one * Nat.pow 10 exponent.toNat
  let value := 4 * units * scale
  let below := (if units = step * Nat.pow 2 52 ∧ 1 < step then step else 2 * step) * scale
  let above := 2 * step * scale
  let lower := value / grid
  let toLower := value - lower * grid
  let toUpper := (lower + 1) * grid - value
  let lowerFits := toLower < below ∨ even ∧ toLower = below
  let upperFits := toUpper < above ∨ even ∧ toUpper = above
  let preferUpper := toUpper < toLower ∨
    toUpper = toLower ∧ (tie = .upward ∨ lower % 2 = 1)
  if lowerFits ∧ lower ≠ 0 ∧ ¬ (upperFits ∧ preferUpper) then some ⟨lower, exponent⟩
  else if upperFits then some ⟨lower + 1, exponent⟩
  else none

/-- The shortest decimal that rounds to a positive magnitude. -/
def shortest (tie : Tie) (units : Nat) : Decimal :=
  let k := places units
  let grids := (List.range 17).map fun (n : Nat) ↦ k - 1 - (n : Int)
  match grids.findSome? (onGrid? tie units) with
  | some d => d.trim 20
  | none => ⟨0, 0⟩

/-- A magnitude written out in full. -/
def positionalMagnitude (tie : Tie) (units : Nat) : List Char :=
  if units = 0 then "0.0".toList else (shortest tie units).positional

/-- A magnitude with an exponent unless its first digit is at one of the places -5 to 15. -/
def compactMagnitude (units : Nat) : List Char :=
  if units = 0 then "0.0".toList
  else
    let d := shortest .toEven units
    if -5 ≤ d.leadingPlace ∧ d.leadingPlace ≤ 15 then d.positional else d.scientific

/-- A text after a sign. -/
def signed (negative : Bool) (magnitude : List Char) : String :=
  String.ofList (if negative then '-' :: magnitude else magnitude)

/-- A double that is always written out. -/
def plainText : Binary64 → String
  | .nan => "NaN"
  | .infinite negative => signed negative "inf".toList
  | .finite negative units => signed negative (positionalMagnitude .upward units)

/-- A double that is written with an exponent where that is shorter. -/
def compactText : Binary64 → String
  | .nan => "NaN"
  | .infinite negative => signed negative "inf".toList
  | .finite negative units => signed negative (compactMagnitude units)

end Binary64

end HexSigner
