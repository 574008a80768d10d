/-!
# Byte strings of a fixed length

Seeds, points, scalars and signatures are byte strings whose length is part of what they are, and
numbers are written into them with the least significant byte first.

* `Octets n` is a byte string of length `n`;
* `littleEndian` is the number that a byte string stands for, and `Octets.ofNat` writes a number
  into `n` bytes, dropping whatever does not fit.
-/

set_option autoImplicit false

namespace HexSigner

/-- A byte string of length `n`. -/
structure Octets (n : Nat) where
  /-- The bytes, in order. -/
  toList : List UInt8
  length_eq : toList.length = n
deriving DecidableEq

namespace Octets

variable {n : Nat}

@[ext] theorem ext {a b : Octets n} (h : a.toList = b.toList) : a = b := by
  cases a; cases b; simp_all

/-- A list of bytes as a byte string of length `n`, if it has that length. -/
def ofList? (n : Nat) (bytes : List UInt8) : Option (Octets n) :=
  if h : bytes.length = n then some ⟨bytes, h⟩ else none

/-- The first `k` bytes. -/
def take (k : Nat) (o : Octets n) (h : k ≤ n := by omega) : Octets k :=
  ⟨o.toList.take k, by simp [o.length_eq, h]⟩

/-- All but the first `k` bytes. -/
def drop (k : Nat) (o : Octets n) : Octets (n - k) :=
  ⟨o.toList.drop k, by simp [o.length_eq]⟩

/-- One byte string after another. -/
def append {m n : Nat} (a : Octets m) (b : Octets n) : Octets (m + n) :=
  ⟨a.toList ++ b.toList, by simp [a.length_eq, b.length_eq]⟩

end Octets

/-- The number that a list of bytes stands for, the least significant byte first. -/
def littleEndian : List UInt8 → Nat
  | [] => 0
  | b :: rest => b.toNat + 256 * littleEndian rest

/-- The `n` least significant bytes of a number, the least significant byte first. -/
def littleEndianBytes : Nat → Nat → List UInt8
  | 0, _ => []
  | n + 1, value => UInt8.ofNat value :: littleEndianBytes n (value / 256)

@[simp] theorem length_littleEndianBytes (n value : Nat) :
    (littleEndianBytes n value).length = n := by
  induction n generalizing value with
  | zero => rfl
  | succ n ih => simp [littleEndianBytes, ih]

namespace Octets

variable {n : Nat}

/-- The number that a byte string stands for. -/
def toNat (o : Octets n) : Nat := littleEndian o.toList

/-- The `n` least significant bytes of a number. -/
def ofNat (n value : Nat) : Octets n :=
  ⟨littleEndianBytes n value, length_littleEndianBytes n value⟩

end Octets

end HexSigner
