import HexSigner.Curve.Point
import HexSigner.Proofs.Repeated
import Mathlib.Data.List.Prime
import Mathlib.NumberTheory.LucasPrimality
import Mathlib.Tactic.NormNum.Prime

/-!
# The two primes of the curve

The coordinates of the curve are integers modulo `prime` and its scalars are integers modulo
`groupOrder`, and both numbers are prime.  Neither can be found prime by trial division, so each
comes with evidence: a `Certificate` names a root modulo a number `n` and the prime factors of
`n - 1`, and Lucas's test says that `n` is prime if the root has order `n - 1`.

The large factors of `n - 1` need certificates of their own.  A list of certificates is a
`isChain` if each one passes the test and uses only known primes and numbers that were certified
before it; `prime_of_isChain` proves all of them prime.  The test itself is evaluated, with powers
computed by `combine`.
-/

set_option autoImplicit false

namespace HexSigner.Curve

/-! ## Lucas's test -/

/-- The `n`-th power of `a` modulo `m`. -/
def powerMod (m a n : Nat) : Nat := combine (fun x y ↦ x * y % m) (1 % m) (a % m) n

theorem powerMod_eq (m a n : Nat) : powerMod m a n = a ^ n % m := by
  refine combine_copies (R := fun k x ↦ x = a ^ k % m) (by rw [pow_zero]) (by rw [pow_one]) ?_ n
  rintro k l x y rfl rfl
  rw [pow_add, ← Nat.mul_mod]

/-- Evidence that a number is prime. -/
structure Certificate where
  number : Nat
  /-- A number of order `number - 1` modulo `number`. -/
  root : Nat
  /-- The prime factors of `number - 1`, each as often as it divides. -/
  factors : List Nat

namespace Certificate

/-- Whether the factors multiply to `number - 1` and the root has that order if they are prime. -/
def passes (c : Certificate) : Bool :=
  1 < c.number && c.factors.prod == c.number - 1 &&
    powerMod c.number c.root (c.number - 1) == 1 &&
    c.factors.all fun q ↦ powerMod c.number c.root ((c.number - 1) / q) != 1

theorem pow_eq_one_iff {n : Nat} (hn : 1 < n) (a k : Nat) :
    (a : ZMod n) ^ k = 1 ↔ powerMod n a k = 1 := by
  rw [powerMod_eq, ← Nat.cast_pow, ← Nat.cast_one, ZMod.natCast_eq_natCast_iff',
    Nat.mod_eq_of_lt hn]

theorem prime_of_passes {c : Certificate} (h : c.passes = true)
    (hfactors : ∀ q ∈ c.factors, q.Prime) : c.number.Prime := by
  simp only [passes, Bool.and_eq_true, decide_eq_true_eq, beq_iff_eq, List.all_eq_true,
    bne_iff_ne] at h
  obtain ⟨⟨⟨hn, hprod⟩, hone⟩, hne⟩ := h
  refine lucas_primality c.number c.root ((pow_eq_one_iff hn _ _).mpr hone) ?_
  intro q hq hdvd
  rw [← hprod] at hdvd
  have hmem : q ∈ c.factors :=
    mem_list_primes_of_dvd_prod hq.prime (fun r hr ↦ (hfactors r hr).prime) hdvd
  rw [ne_eq, pow_eq_one_iff hn]
  exact hne q hmem

/-- Whether each certificate passes and its factors are known or certified before it. -/
def isChain : List Nat → List Certificate → Bool
  | _, [] => true
  | known, c :: rest =>
    c.passes && (c.factors.all fun q ↦ known.contains q) && isChain (c.number :: known) rest

theorem prime_of_isChain {known : List Nat} {chain : List Certificate}
    (hknown : ∀ q ∈ known, q.Prime) (h : isChain known chain = true) :
    ∀ c ∈ chain, c.number.Prime := by
  induction chain generalizing known with
  | nil => simp
  | cons c rest ih =>
    simp only [isChain, Bool.and_eq_true, List.all_eq_true, List.contains_iff_mem] at h
    obtain ⟨⟨hpass, hfactors⟩, hrest⟩ := h
    have hc : c.number.Prime := prime_of_passes hpass fun q hq ↦ hknown q (hfactors q hq)
    have hknown' : ∀ q ∈ c.number :: known, q.Prime := by
      rw [List.forall_mem_cons]
      exact ⟨hc, hknown⟩
    rw [List.forall_mem_cons]
    exact ⟨hc, ih hknown' hrest⟩

end Certificate

/-! ## The certificates -/

/-- The prime factors below a million that the certificates use. -/
def smallPrimes : List Nat := [
  2, 3, 5, 7, 11, 13, 19, 23, 31, 41, 43, 47, 73, 103, 107, 127, 223, 269, 307, 353, 991, 1361,
  2437, 2551, 2851, 3727, 4153, 5879, 30703, 57467, 65147, 75707, 82163, 132049, 132667, 137849,
  409477, 430751, 531581, 569003]

theorem prime_of_mem_smallPrimes : ∀ q ∈ smallPrimes, q.Prime := by
  simp only [smallPrimes, List.forall_mem_cons]
  norm_num

/-- The certificates that lead to the order of the coordinate field. -/
def primeChain : List Certificate := [
  ⟨1923133, 2, [2, 2, 3, 43, 3727]⟩,
  ⟨31757755568855353, 10, [2, 2, 2, 3, 31, 107, 223, 4153, 430751]⟩,
  ⟨2773320623, 5, [2, 2437, 569003]⟩,
  ⟨72106336199, 7, [2, 13, 2773320623]⟩,
  ⟨8574133, 2, [2, 2, 3, 7, 103, 991]⟩,
  ⟨1919519569386763, 2, [2, 3, 7, 19, 47, 47, 127, 8574133]⟩,
  ⟨75445702479781427272750846543864801, 7,
    [2, 2, 2, 2, 2, 3, 3, 5, 5, 75707, 72106336199, 1919519569386763]⟩,
  ⟨74058212732561358302231226437062788676166966415465897661863160754340907, 2,
    [2, 3, 353, 57467, 132049, 1923133, 31757755568855353, 75445702479781427272750846543864801]⟩,
  ⟨prime, 2,
    [2, 2, 3, 65147, 74058212732561358302231226437062788676166966415465897661863160754340907]⟩]

/-- The certificates that lead to the order of the base point. -/
def groupOrderChain : List Certificate := [
  ⟨14741173, 2, [2, 2, 3, 3, 409477]⟩,
  ⟨58964693, 2, [2, 2, 14741173]⟩,
  ⟨3044861653679985063343, 5, [2, 3, 11, 30703, 82163, 132667, 137849]⟩,
  ⟨198211423230930754013084525763697, 5, [2, 2, 2, 2, 3, 23, 58964693, 3044861653679985063343]⟩,
  ⟨292386187, 2, [2, 3, 3, 3, 3, 307, 5879]⟩,
  ⟨213441916511, 13, [2, 5, 73, 292386187]⟩,
  ⟨1224481, 13, [2, 2, 2, 2, 2, 3, 5, 2551]⟩,
  ⟨1257559732178653, 2, [2, 2, 3, 7, 23, 531581, 1224481]⟩,
  ⟨4434155615661930479, 17, [2, 41, 43, 1257559732178653]⟩,
  ⟨172054593956031949258510691, 2, [2, 5, 1361, 2851, 4434155615661930479]⟩,
  ⟨19757330305831588566944191468367130476339, 2,
    [2, 269, 213441916511, 172054593956031949258510691]⟩,
  ⟨276602624281642239937218680557139826668747, 2,
    [2, 7, 19757330305831588566944191468367130476339]⟩,
  ⟨groupOrder, 2, [2, 2, 3, 11, 198211423230930754013084525763697,
    276602624281642239937218680557139826668747]⟩]

/-- **The order of the coordinate field is prime.** -/
theorem prime_prime : prime.Prime :=
  Certificate.prime_of_isChain prime_of_mem_smallPrimes
    (show Certificate.isChain smallPrimes primeChain = true by decide +kernel) _
    (List.mem_of_getLast? (a := ⟨prime, _, _⟩) rfl)

/-- **The order of the base point is prime.** -/
theorem prime_groupOrder : groupOrder.Prime :=
  Certificate.prime_of_isChain prime_of_mem_smallPrimes
    (show Certificate.isChain smallPrimes groupOrderChain = true by decide +kernel) _
    (List.mem_of_getLast? (a := ⟨groupOrder, _, _⟩) rfl)

instance : Fact prime.Prime := ⟨prime_prime⟩

instance : Fact groupOrder.Prime := ⟨prime_groupOrder⟩

end HexSigner.Curve
