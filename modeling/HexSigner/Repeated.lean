/-!
# Combining something with itself many times

Raising to a power and multiplying a point by a number are the same computation: an operation is
applied to `n` copies of one value.  `combine` does it with about two operations per binary digit of
`n`, reading the digits from the most significant one and doubling before each.

In any monoid the result is the `n`-fold combination; nothing here depends on that, so the
operation and its unit are plain arguments.
-/

set_option autoImplicit false

namespace HexSigner

/-- The lowest `width` binary digits of `n`, the most significant first. -/
def lowDigits (n : Nat) : Nat → List Bool
  | 0 => []
  | width + 1 => n.testBit width :: lowDigits n width

/-- The binary digits of `n`, the most significant first. -/
def binaryDigits (n : Nat) : List Bool := lowDigits n (n.log2 + 1)

/-- One digit of the method: double what there is, and add one more copy for a one. -/
def doubleAndAdd {α : Type} (op : α → α → α) (x acc : α) (digit : Bool) : α :=
  if digit then op (op acc acc) x else op acc acc

/-- `n` copies of `x`, combined. -/
def combine {α : Type} (op : α → α → α) (unit x : α) (n : Nat) : α :=
  (binaryDigits n).foldl (doubleAndAdd op x) unit

end HexSigner
