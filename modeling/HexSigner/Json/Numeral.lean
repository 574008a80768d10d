import HexSigner.Json.Fault

/-!
# Numbers of JSON

A number is written in decimal digits, with a fraction or an exponent if need be.  One without
either that fits into 64 bits is an integer, and every other one is a double.

The value of a double is computed step by step from its first digits, and not rounded from the exact
number: the digits are gathered for as long as they fit into 64 bits, the others only count for the
exponent or not at all, and the result is scaled by a power of ten.  So the last place may differ
from that of the nearest double.  What comes out too large is refused.
-/

set_option autoImplicit false

namespace HexSigner.Json

/-- A number as it is written. -/
structure Numeral where
  negative : Bool
  whole : List Nat
  /-- The digits after the point. -/
  fraction : Option (List Nat)
  /-- Whether the exponent is negative, and its digits. -/
  exponent : Option (Bool × List Nat)
deriving DecidableEq, Repr

/-- The value of a number. -/
inductive Number where
  | integer (value : Int)
  | real (value : Binary64)
deriving DecidableEq, Repr

/-! ## Reading -/

/-- The digits at the front of a text. -/
def takeDigits (cs : List Char) : List Nat :=
  (cs.takeWhile Char.isDigit).map fun c ↦ c.toNat - 48

/-- What follows after the digits at the front of a text. -/
def dropDigits (cs : List Char) : List Char := cs.dropWhile Char.isDigit

theorem length_dropDigits_le (cs : List Char) : (dropDigits cs).length ≤ cs.length :=
  (List.dropWhile_suffix _).sublist.length_le

/-- Reads the digits before the point.  A zero stands alone.  `atEnd` is what is wrong when the text
ends where a digit is needed. -/
def readWhole (atEnd : Cause) : List Char → Except Fault (List Nat × List Char)
  | [] => .error (.before atEnd [])
  | c :: cs =>
    if c = '0' then
      if (takeDigits cs).isEmpty then .ok ([0], cs) else .error (.inside .badNumber cs)
    else if c.isDigit then .ok (takeDigits (c :: cs), dropDigits cs)
    else .error (.inside .badNumber (c :: cs))

theorem length_lt_of_readWhole {atEnd : Cause} {cs rest : List Char} {ds : List Nat}
    (h : readWhole atEnd cs = .ok (ds, rest)) : rest.length < cs.length := by
  unfold readWhole at h
  split at h
  · simp at h
  · next c cs =>
    have := length_dropDigits_le cs
    split at h
    · split at h <;> simp_all
    · split at h
      · obtain ⟨-, rfl⟩ := Prod.mk.injEq .. ▸ Except.ok.injEq .. ▸ h
        simp only [List.length_cons]
        omega
      · simp at h

/-- Reads the fraction of a number, if it has one. -/
def readFraction (atEnd : Cause) : List Char → Except Fault (Option (List Nat) × List Char)
  | '.' :: cs =>
    if !(takeDigits cs).isEmpty then .ok (some (takeDigits cs), dropDigits cs)
    else if cs.isEmpty then .error (.before atEnd [])
    else .error (.inside .badNumber cs)
  | cs => .ok (none, cs)

theorem length_le_of_readFraction {atEnd : Cause} {cs rest : List Char} {ds : Option (List Nat)}
    (h : readFraction atEnd cs = .ok (ds, rest)) : rest.length ≤ cs.length := by
  unfold readFraction at h
  split at h
  · next cs =>
    have := length_dropDigits_le cs
    split at h
    · obtain ⟨-, rfl⟩ := Prod.mk.injEq .. ▸ Except.ok.injEq .. ▸ h
      simp only [List.length_cons]
      omega
    · split at h <;> simp at h
  · obtain ⟨-, rfl⟩ := Prod.mk.injEq .. ▸ Except.ok.injEq .. ▸ h
    exact Nat.le_refl _

/-- The sign of an exponent, and what follows after it. -/
def exponentSign : List Char → Bool × List Char
  | '+' :: cs => (false, cs)
  | '-' :: cs => (true, cs)
  | cs => (false, cs)

theorem length_exponentSign_le (cs : List Char) : (exponentSign cs).2.length ≤ cs.length := by
  unfold exponentSign
  split <;> simp

/-- Reads the exponent of a number, if it has one. -/
def readExponent (atEnd : Cause) : List Char → Except Fault (Option (Bool × List Nat) × List Char)
  | [] => .ok (none, [])
  | c :: cs =>
    if c = 'e' ∨ c = 'E' then
      let sign := exponentSign cs
      if !(takeDigits sign.2).isEmpty then
        .ok (some (sign.1, takeDigits sign.2), dropDigits sign.2)
      else if sign.2.isEmpty then .error (.before atEnd [])
      else .error (.inside .badNumber sign.2)
    else .ok (none, c :: cs)

theorem length_le_of_readExponent {atEnd : Cause} {cs rest : List Char}
    {e : Option (Bool × List Nat)} (h : readExponent atEnd cs = .ok (e, rest)) :
    rest.length ≤ cs.length := by
  unfold readExponent at h
  split at h
  · simp_all
  · next c cs =>
    have := length_dropDigits_le (exponentSign cs).2
    have := length_exponentSign_le cs
    split at h
    · dsimp only at h
      split at h
      · obtain ⟨-, rfl⟩ := Prod.mk.injEq .. ▸ Except.ok.injEq .. ▸ h
        simp only [List.length_cons]
        omega
      · split at h <;> simp at h
    · obtain ⟨-, rfl⟩ := Prod.mk.injEq .. ▸ Except.ok.injEq .. ▸ h
      exact Nat.le_refl _

/-- Reads a number whose sign was read already. -/
def readNumeral (atEnd : Cause) (negative : Bool) (cs : List Char) :
    Except Fault (Numeral × List Char) :=
  match readWhole atEnd cs with
  | .error f => .error f
  | .ok (whole, cs) =>
    match readFraction atEnd cs with
    | .error f => .error f
    | .ok (fraction, cs) =>
      match readExponent atEnd cs with
      | .error f => .error f
      | .ok (exponent, rest) => .ok ({ negative, whole, fraction, exponent }, rest)

theorem length_lt_of_readNumeral {atEnd : Cause} {negative : Bool} {cs rest : List Char}
    {n : Numeral} (h : readNumeral atEnd negative cs = .ok (n, rest)) :
    rest.length < cs.length := by
  unfold readNumeral at h
  split at h
  · simp at h
  · next hw =>
    split at h
    · simp at h
    · next hf =>
      split at h
      · simp at h
      · next he =>
        obtain ⟨-, rfl⟩ := Prod.mk.injEq .. ▸ Except.ok.injEq .. ▸ h
        have := length_lt_of_readWhole hw
        have := length_le_of_readFraction hf
        have := length_le_of_readExponent he
        omega

/-! ## Value -/

/-- Appends digits to a number for as long as it stays within a limit; the digits that are left. -/
def absorb (limit n : Nat) : List Nat → Nat × List Nat
  | [] => (n, [])
  | d :: ds => if 10 * n + d ≤ limit then absorb limit (10 * n + d) ds else (n, d :: ds)

/-- The largest number that digits are gathered to. -/
def largestSignificand : Nat := Nat.pow 2 64 - 1

/-- The largest exponent that is read digit by digit. -/
def largestExponent : Nat := Nat.pow 2 31 - 1

/-- The double nearest to a power of ten, in units. -/
def powerOfTen (k : Nat) : Nat := Binary64.nearest (Nat.pow 10 k * Binary64.one) 1

/-- A magnitude divided by a power of ten, in steps that stay within the range of doubles. -/
def scaleDown (units k : Nat) : Nat :=
  if k ≤ 308 then Binary64.quotient units (powerOfTen k)
  else if units = 0 then 0
  else scaleDown (Binary64.quotient units (powerOfTen 308)) (k - 308)
termination_by k

/-- The magnitude `significand * 10 ^ exponent`, unless it is too large. -/
def scale? (significand : Nat) (exponent : Int) : Option Nat :=
  let units := Binary64.ofNat significand
  if exponent < 0 then some (scaleDown units (-exponent).toNat)
  else if units = 0 then some 0
  else if 308 < exponent then none
  else
    let scaled := Binary64.product units (powerOfTen exponent.toNat)
    if scaled < Binary64.overflow then some scaled else none

/-- The value of a number that is followed by `left` more bytes.  A number that is too large shows
that where its exponent becomes too large, or else at its end. -/
def Numeral.value (n : Numeral) (left : Nat) : Except Fault Number :=
  let (whole, dropped) := absorb largestSignificand 0 n.whole
  if dropped.isEmpty && n.fraction.isNone && n.exponent.isNone then
    if !n.negative then .ok (.integer whole)
    else if whole = 0 ∨ Nat.pow 2 63 < whole then .ok (.real (.finite true (Binary64.ofNat whole)))
    else .ok (.integer (-whole))
  else
    let fraction := n.fraction.getD []
    let (significand, unused) := absorb largestSignificand whole fraction
    let point : Int := (dropped.length : Int) - (fraction.length - unused.length : Nat)
    let scaled (exponent : Int) : Except Fault Number :=
      match scale? significand exponent with
      | some units => .ok (.real (.finite n.negative units))
      | none => .error ⟨.numberTooLarge, left⟩
    match n.exponent with
    | none => scaled point
    | some (negative, digits) =>
      match absorb largestExponent 0 digits with
      | (e, []) => scaled (if negative then point - e else point + e)
      | (_, _ :: rest) =>
        if significand ≠ 0 ∧ !negative then .error ⟨.numberTooLarge, rest.length + left⟩
        else .ok (.real (.finite n.negative 0))

end HexSigner.Json
