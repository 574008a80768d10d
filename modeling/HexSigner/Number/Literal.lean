/-!
# What reads as a number

A number in decimal notation may have a sign, a point before, within or after its digits, and an
exponent.  Infinity and the undefined number have names, in any letter case.
-/

set_option autoImplicit false

namespace HexSigner.Number

/-- A text without the sign in front. -/
def dropSign : List Char → List Char
  | '+' :: rest => rest
  | '-' :: rest => rest
  | rest => rest

/-- The names of numbers. -/
def names : List String := ["inf", "infinity", "nan"]

/-- Whether a text is the exponent of a number, or empty. -/
def isExponent : List Char → Bool
  | [] => true
  | c :: rest => c.toLower = 'e' && dropSign rest ≠ [] && (dropSign rest).all Char.isDigit

/-- Whether a text is a number. -/
def isLiteral (text : List Char) : Bool :=
  let magnitude := dropSign text
  let (whole, rest) := magnitude.span Char.isDigit
  let (fraction, rest) := match rest with
    | '.' :: rest => rest.span Char.isDigit
    | rest => ([], rest)
  names.contains (String.ofList (magnitude.map Char.toLower)) ||
    !(whole ++ fraction).isEmpty && isExponent rest

end HexSigner.Number
