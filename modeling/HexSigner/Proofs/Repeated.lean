import HexSigner.Repeated
import Mathlib.Tactic.Ring

/-!
# Combining copies by doubling

`combine op unit x n` is `n` copies of `x`, combined by `op`, whatever "combined" means.  What it
means is left to a relation `R`: `R m a` says that `a` stands for `m` copies.  If the unit stands
for no copy, `x` for one, and `op` adds the numbers of copies up, then `combine` arrives at `n`
copies (`combine_copies`).

Powers of a number, powers in the coordinate field and multiples of a point are all instances, each
with a relation of its own.
-/

set_option autoImplicit false

namespace HexSigner

variable {α : Type} {R : Nat → α → Prop} {op : α → α → α} {unit x : α}

/-- One digit of the method takes `m` copies to `2 m` or `2 m + 1`. -/
theorem doubleAndAdd_copies (hx : R 1 x) (hop : ∀ {m n a b}, R m a → R n b → R (m + n) (op a b))
    {m : Nat} {acc : α} (hacc : R m acc) (digit : Bool) :
    R (2 * m + digit.toNat) (doubleAndAdd op x acc digit) := by
  cases digit with
  | false =>
    rw [show 2 * m + false.toNat = m + m by simp; ring]
    exact hop hacc hacc
  | true =>
    rw [show 2 * m + true.toNat = m + m + 1 by simp; ring]
    exact hop (hop hacc hacc) hx

/-- Reading the lowest `width` digits of `n` takes `m` copies to `m * 2 ^ width + n % 2 ^ width`. -/
theorem foldl_lowDigits_copies (hx : R 1 x)
    (hop : ∀ {m n a b}, R m a → R n b → R (m + n) (op a b)) (n width : Nat) {m : Nat} {acc : α}
    (hacc : R m acc) :
    R (m * 2 ^ width + n % 2 ^ width) ((lowDigits n width).foldl (doubleAndAdd op x) acc) := by
  induction width generalizing m acc with
  | zero => simpa [lowDigits, Nat.mod_one] using hacc
  | succ width ih =>
    have h := ih (doubleAndAdd_copies hx hop hacc (n.testBit width))
    rw [lowDigits, List.foldl_cons]
    rwa [show m * 2 ^ (width + 1) + n % 2 ^ (width + 1) =
      (2 * m + (n.testBit width).toNat) * 2 ^ width + n % 2 ^ width by
        rw [Nat.mod_pow_succ, Nat.toNat_testBit]; ring]

/-- **`combine` arrives at `n` copies.** -/
theorem combine_copies (hunit : R 0 unit) (hx : R 1 x)
    (hop : ∀ {m n a b}, R m a → R n b → R (m + n) (op a b)) (n : Nat) :
    R n (combine op unit x n) := by
  have h := foldl_lowDigits_copies hx hop n (n.log2 + 1) hunit
  rwa [zero_mul, zero_add, Nat.mod_eq_of_lt Nat.lt_log2_self] at h

end HexSigner
