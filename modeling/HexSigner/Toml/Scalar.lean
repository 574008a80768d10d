import HexSigner.Number.Binary64
import HexSigner.Toml.Text

/-!
# Scalars of TOML

A value that contains no other values: a string, a number, a truth value, or a date and time.

Digits of a number may be grouped by underscores, each of them between two digits.  An integer fits
into 64 bits; it does not start with a zero unless it is zero, and without a sign it may also be
written in one of three other bases.  A number with a fraction or an exponent is rounded to the
nearest double.  One that is too large is refused if it is positive, and infinite otherwise.

Dates and times have to exist, but nobody asks which ones they are, so they are only recognised.
-/

set_option autoImplicit false

namespace HexSigner.Toml

/-- A scalar. -/
inductive Scalar where
  | text (value : String)
  | integer (value : Int)
  | real (value : Binary64)
  | boolean (value : Bool)
  /-- A date, a time, or both. -/
  | moment
deriving DecidableEq, Repr

/-! ## Digits -/

/-- A digit of a base of at most sixteen. -/
def digit? (base : Nat) (c : Char) : Option Nat :=
  match Text.hexDigit? c with
  | some d => if d < base then some d else none
  | none => none

/-- Reads the digits that follow after a digit, and appends them to `value`; the number of digits is
added to `count`. -/
def moreDigits (base : Nat) (value count : Nat) : List Char → Nat × Nat × List Char
  | [] => (value, count, [])
  | [c] =>
    match digit? base c with
    | some d => (base * value + d, count + 1, [])
    | none => (value, count, [c])
  | c :: e :: cs =>
    match digit? base c with
    | some d => moreDigits base (base * value + d) (count + 1) (e :: cs)
    | none =>
      match c, digit? base e with
      | '_', some d => moreDigits base (base * value + d) (count + 1) cs
      | _, _ => (value, count, c :: e :: cs)

/-- Reads digits with underscores between them: their value, their number, and what follows. -/
def digits? (base : Nat) : List Char → Option (Nat × Nat × List Char)
  | [] => none
  | c :: cs => (digit? base c).map fun d ↦ moreDigits base d 1 cs

/-- Reads a sign; the truth value says whether it is a minus. -/
def sign : List Char → Bool × List Char
  | '+' :: cs => (false, cs)
  | '-' :: cs => (true, cs)
  | cs => (false, cs)

/-! ## Numbers -/

/-- Reads the digits before the point: a zero on its own, or digits that do not start with one. -/
def wholeDigits? : List Char → Option (Nat × List Char)
  | '0' :: cs => some (0, cs)
  | cs => (digits? 10 cs).map fun (value, _, rest) ↦ (value, rest)

/-- Reads an exponent. -/
def exponent? (cs : List Char) : Option (Int × List Char) :=
  let (negative, cs) := sign cs
  (digits? 10 cs).map fun (value, _, rest) ↦ (if negative then -value else value, rest)

/-- Whether a character introduces an exponent. -/
def isExponentMark (c : Char) : Bool := c = 'e' || c = 'E'

/-- The scalar `digits * 10 ^ exponent`, unless it is too large. -/
def real? (negative : Bool) (digits : Nat) (exponent : Int) : Option Scalar :=
  match Binary64.ofUnits negative (Binary64.ofDecimal digits exponent) with
  | .infinite false => none
  | x => some (.real x)

/-- Reads what follows after the digits of a fraction with `places` digits. -/
def afterFraction? (negative : Bool) (digits places : Nat) (cs : List Char) :
    Option (Scalar × List Char) :=
  match cs with
  | [] => (real? negative digits (-places)).map (·, [])
  | c :: rest =>
    if isExponentMark c then do
      let (exponent, rest) ← exponent? rest
      return (← real? negative digits (exponent - places), rest)
    else (real? negative digits (-places)).map (·, c :: rest)

/-- The integer with a sign and a magnitude, if it fits into 64 bits. -/
def integer? (negative : Bool) (magnitude : Nat) : Option Scalar :=
  let value : Int := if negative then -magnitude else magnitude
  if -Int.pow 2 63 ≤ value ∧ value < Int.pow 2 63 then some (.integer value) else none

/-- Reads a number in base ten. -/
def decimal? (cs : List Char) : Option (Scalar × List Char) := do
  let (negative, cs) := sign cs
  let (whole, rest) ← wholeDigits? cs
  match rest with
  | '.' :: rest =>
    let (fraction, places, rest) ← digits? 10 rest
    afterFraction? negative (whole * Nat.pow 10 places + fraction) places rest
  | c :: rest =>
    if isExponentMark c then afterFraction? negative whole 0 (c :: rest)
    else return (← integer? negative whole, c :: rest)
  | [] => return (← integer? negative whole, [])

/-- Reads one of the two numbers that have no digits. -/
def special? (cs : List Char) : Option (Scalar × List Char) :=
  let (negative, cs) := sign cs
  match word? "inf".toList cs with
  | some rest => some (.real (.infinite negative), rest)
  | none => (word? "nan".toList cs).map fun rest ↦ (.real .nan, rest)

/-- Reads an integer in a base that is named by a letter after a zero. -/
def based? : List Char → Option (Scalar × List Char)
  | '0' :: letter :: cs => do
    let base ← [('x', 16), ('o', 8), ('b', 2)].lookup letter
    let (value, _, rest) ← digits? base cs
    return (← integer? false value, rest)
  | _ => none

/-! ## Dates and times -/

/-- Reads a number of exactly `n` decimal digits. -/
def fixed? : Nat → Nat → List Char → Option (Nat × List Char)
  | 0, value, cs => some (value, cs)
  | _ + 1, _, [] => none
  | n + 1, value, c :: cs =>
    match digit? 10 c with
    | some d => fixed? n (10 * value + d) cs
    | none => none

/-- Reads a number of two digits from a range. -/
def between? (low high : Nat) (cs : List Char) : Option (Nat × List Char) := do
  let (n, rest) ← fixed? 2 0 cs
  guard (low ≤ n ∧ n ≤ high)
  return (n, rest)

/-- The number of days in a month. -/
def daysInMonth (year month : Nat) : Nat :=
  if month = 2 then if year % 4 = 0 ∧ (year % 100 ≠ 0 ∨ year % 400 = 0) then 29 else 28
  else if month = 4 ∨ month = 6 ∨ month = 9 ∨ month = 11 then 30
  else 31

/-- Reads a date. -/
def date? (cs : List Char) : Option (List Char) := do
  let (year, cs) ← fixed? 4 0 cs
  let cs ← word? ['-'] cs
  let (month, cs) ← between? 1 12 cs
  let cs ← word? ['-'] cs
  let (_, rest) ← between? 1 (daysInMonth year month) cs
  return rest

/-- What follows after a fraction of a second. -/
def skipFraction : List Char → List Char
  | '.' :: c :: cs =>
    if c.isDigit then cs.dropWhile Char.isDigit else '.' :: c :: cs
  | cs => cs

/-- Reads a time. -/
def time? (cs : List Char) : Option (List Char) := do
  let (_, cs) ← between? 0 23 cs
  let cs ← word? [':'] cs
  let (_, cs) ← between? 0 59 cs
  let cs ← word? [':'] cs
  let (_, cs) ← between? 0 60 cs
  return skipFraction cs

/-- Reads the distance of a time from the universal one. -/
def offset? : List Char → Option (List Char)
  | [] => none
  | c :: cs =>
    if c = 'Z' ∨ c = 'z' then some cs
    else if c = '+' ∨ c = '-' then do
      let (_, cs) ← between? 0 23 cs
      let cs ← word? [':'] cs
      let (_, rest) ← between? 0 59 cs
      return rest
    else none

/-- Reads the time after a date, and its offset. -/
def afterDate? : List Char → Option (List Char)
  | [] => none
  | c :: cs =>
    if c = 'T' ∨ c = 't' ∨ c = ' ' then
      (time? cs).map fun rest ↦ (offset? rest).getD rest
    else none

/-- Reads a date, a time, or both. -/
def moment? (cs : List Char) : Option (List Char) :=
  match date? cs with
  | some rest => some ((afterDate? rest).getD rest)
  | none => time? cs

/-! ## All scalars -/

/-- Reads a scalar. -/
def scalar? (cs : List Char) : Option (Scalar × List Char) :=
  match cs with
  | [] => none
  | c :: _ =>
    if c = '"' ∨ c = '\'' then (text? cs).map fun (s, rest) ↦ (.text (String.ofList s), rest)
    else if c = 't' then (word? "true".toList cs).map fun rest ↦ (.boolean true, rest)
    else if c = 'f' then (word? "false".toList cs).map fun rest ↦ (.boolean false, rest)
    else
      match moment? cs with
      | some rest => some (.moment, rest)
      | none => based? cs <|> special? cs <|> decimal? cs

/-! ## Every scalar takes something -/

theorem length_le_of_moreDigits {base value count v n : Nat} {cs rest : List Char}
    (h : moreDigits base value count cs = (v, n, rest)) : rest.length ≤ cs.length := by
  fun_induction moreDigits base value count cs <;> grind

theorem length_lt_of_digits? {base v n : Nat} {cs rest : List Char}
    (h : digits? base cs = some (v, n, rest)) : rest.length < cs.length := by
  cases cs with
  | nil => simp [digits?] at h
  | cons c cs =>
    obtain ⟨d, -, hd⟩ := Option.map_eq_some_iff.1 h
    exact Nat.lt_succ_of_le (length_le_of_moreDigits hd)

theorem length_sign_le (cs : List Char) : (sign cs).2.length ≤ cs.length := by
  unfold sign
  split <;> simp

theorem length_lt_of_wholeDigits? {cs rest : List Char} {n : Nat}
    (h : wholeDigits? cs = some (n, rest)) : rest.length < cs.length := by
  unfold wholeDigits? at h
  split at h
  · grind
  · grind [= Option.map_eq_some_iff, → length_lt_of_digits?]

theorem length_le_of_exponent? {cs rest : List Char} {e : Int}
    (h : exponent? cs = some (e, rest)) : rest.length ≤ cs.length := by
  have := length_sign_le cs
  unfold exponent? at h
  grind [= Option.map_eq_some_iff, → length_lt_of_digits?]

theorem length_le_of_afterFraction? {negative : Bool} {digits places : Nat}
    {cs rest : List Char} {s : Scalar}
    (h : afterFraction? negative digits places cs = some (s, rest)) :
    rest.length ≤ cs.length := by
  unfold afterFraction? at h
  split at h
  · grind [= Option.map_eq_some_iff]
  · split at h
    · simp only [Option.bind_eq_bind, Option.bind_eq_some_iff] at h
      grind [→ length_le_of_exponent?]
    · grind [= Option.map_eq_some_iff]

theorem length_lt_of_decimal? {cs rest : List Char} {s : Scalar}
    (h : decimal? cs = some (s, rest)) : rest.length < cs.length := by
  have := length_sign_le cs
  simp only [decimal?, Option.bind_eq_bind, Option.bind_eq_some_iff] at h
  obtain ⟨⟨whole, left⟩, hw, h⟩ := h
  have := length_lt_of_wholeDigits? hw
  dsimp only at h
  split at h
  · simp only [Option.bind_eq_some_iff] at h
    grind [→ length_lt_of_digits?, → length_le_of_afterFraction?]
  · split at h
    · grind [→ length_le_of_afterFraction?]
    · simp only [Option.bind_eq_some_iff] at h
      grind
  · simp only [Option.bind_eq_some_iff] at h
    grind

theorem length_lt_of_word? {c : Char} {word cs rest : List Char}
    (h : word? (c :: word) cs = some rest) : rest.length < cs.length := by
  cases cs with
  | nil => simp [word?] at h
  | cons d cs =>
    simp only [word?] at h
    split at h
    · exact Nat.lt_succ_of_le (length_word?_le h)
    · simp at h

theorem length_lt_of_special? {cs rest : List Char} {s : Scalar}
    (h : special? cs = some (s, rest)) : rest.length < cs.length := by
  have := length_sign_le cs
  unfold special? at h
  dsimp only at h
  split at h
  · next hw => grind [length_lt_of_word? hw]
  · obtain ⟨left, hw, h⟩ := Option.map_eq_some_iff.1 h
    grind [length_lt_of_word? hw]

theorem length_lt_of_based? {cs rest : List Char} {s : Scalar}
    (h : based? cs = some (s, rest)) : rest.length < cs.length := by
  unfold based? at h
  split at h
  · simp only [Option.bind_eq_bind, Option.bind_eq_some_iff] at h
    grind [→ length_lt_of_digits?]
  · simp at h

theorem length_le_of_fixed? {n value m : Nat} {cs rest : List Char}
    (h : fixed? n value cs = some (m, rest)) : rest.length + n ≤ cs.length := by
  fun_induction fixed? n value cs <;> grind

theorem length_lt_of_between? {low high n : Nat} {cs rest : List Char}
    (h : between? low high cs = some (n, rest)) : rest.length < cs.length := by
  obtain ⟨⟨m, left⟩, hfixed, hguard⟩ := Option.bind_eq_some_iff.mp h
  obtain ⟨_, -, hpair⟩ := Option.bind_eq_some_iff.mp hguard
  have hlength := length_le_of_fixed? hfixed
  cases hpair
  omega

theorem length_lt_of_date? {cs rest : List Char} (h : date? cs = some rest) :
    rest.length < cs.length := by
  simp only [date?, Option.bind_eq_bind, Option.bind_eq_some_iff] at h
  grind [→ length_le_of_fixed?, → length_lt_of_between?, → length_word?_le]

theorem length_skipFraction_le (cs : List Char) : (skipFraction cs).length ≤ cs.length := by
  unfold skipFraction
  split
  · split
    · next cs _ =>
      have := (List.dropWhile_suffix (l := cs) Char.isDigit).sublist.length_le
      grind
    · exact Nat.le_refl _
  · exact Nat.le_refl _

theorem length_lt_of_time? {cs rest : List Char} (h : time? cs = some rest) :
    rest.length < cs.length := by
  simp only [time?, Option.bind_eq_bind, Option.bind_eq_some_iff] at h
  grind [→ length_lt_of_between?, → length_word?_le, length_skipFraction_le]

theorem length_lt_of_offset? {cs rest : List Char} (h : offset? cs = some rest) :
    rest.length < cs.length := by
  unfold offset? at h
  split at h
  · simp at h
  · split at h
    · grind
    · split at h
      · simp only [Option.bind_eq_bind, Option.bind_eq_some_iff] at h
        grind [→ length_lt_of_between?, → length_word?_le]
      · simp at h

theorem length_lt_of_afterDate? {cs rest : List Char} (h : afterDate? cs = some rest) :
    rest.length < cs.length := by
  unfold afterDate? at h
  split at h
  · simp at h
  · split at h
    · obtain ⟨left, ht, rfl⟩ := Option.map_eq_some_iff.1 h
      have := length_lt_of_time? ht
      cases ho : offset? left with
      | none => grind
      | some last => grind [→ length_lt_of_offset?]
    · simp at h

theorem length_lt_of_moment? {cs rest : List Char} (h : moment? cs = some rest) :
    rest.length < cs.length := by
  unfold moment? at h
  split at h
  · next left hd =>
    have := length_lt_of_date? hd
    cases ha : afterDate? left with
    | none => grind
    | some last => grind [→ length_lt_of_afterDate?]
  · exact length_lt_of_time? h

theorem length_lt_of_scalar? {cs rest : List Char} {s : Scalar}
    (h : scalar? cs = some (s, rest)) : rest.length < cs.length := by
  unfold scalar? at h
  split at h
  · simp at h
  split at h
  · grind [= Option.map_eq_some_iff, → length_lt_of_text?]
  split at h
  · obtain ⟨left, hw, h⟩ := Option.map_eq_some_iff.1 h
    grind [length_lt_of_word? hw]
  split at h
  · obtain ⟨left, hw, h⟩ := Option.map_eq_some_iff.1 h
    grind [length_lt_of_word? hw]
  split at h
  · grind [→ length_lt_of_moment?]
  · simp only [Option.orElse_eq_orElse, Option.orElse_eq_or, Option.or_eq_some_iff] at h
    grind [→ length_lt_of_based?, → length_lt_of_special?, → length_lt_of_decimal?]

end HexSigner.Toml
