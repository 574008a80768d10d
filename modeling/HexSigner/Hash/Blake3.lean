import HexSigner.Octets

/-!
# BLAKE3 of a short message

Key identifiers are BLAKE3 digests of 32 bytes.  A message of at most 64 bytes is a single block
of a single chunk that is also the root of the tree, so the digest is one application of the
compression function, and that is all this file has.

The sixteen words of the compression state are four rows of four.  A round mixes the four columns
and then the four diagonals; a diagonal step is a column step between two rotations of the rows.
-/

set_option autoImplicit false

namespace HexSigner.Blake3

/-- Four words that are mixed side by side. -/
structure Row where
  w0 : UInt32
  w1 : UInt32
  w2 : UInt32
  w3 : UInt32
deriving DecidableEq

namespace Row

/-- The words, in order. -/
def toList (r : Row) : List UInt32 := [r.w0, r.w1, r.w2, r.w3]

/-- A binary operation on words, applied place by place. -/
def zip (f : UInt32 → UInt32 → UInt32) (r s : Row) : Row :=
  ⟨f r.w0 s.w0, f r.w1 s.w1, f r.w2 s.w2, f r.w3 s.w3⟩

/-- A function on words, applied place by place. -/
def map (f : UInt32 → UInt32) (r : Row) : Row := ⟨f r.w0, f r.w1, f r.w2, f r.w3⟩

/-- The row with each word one place to the left. -/
def rotateLeft (r : Row) : Row := ⟨r.w1, r.w2, r.w3, r.w0⟩

end Row

/-- The compression state, row by row. -/
structure State where
  a : Row
  b : Row
  c : Row
  d : Row
deriving DecidableEq

/-- Rotation to the right by `k` bits, for `k` from 1 to 31. -/
def rotateRight (k x : UInt32) : UInt32 := (x >>> k) ||| (x <<< (32 - k))

/-- Mixes two message words into each column. -/
def mixColumns (s : State) (x y : Row) : State :=
  let add := Row.zip (· + ·)
  let xor := Row.zip (· ^^^ ·)
  let a := add (add s.a s.b) x
  let d := (xor s.d a).map (rotateRight 16)
  let c := add s.c d
  let b := (xor s.b c).map (rotateRight 12)
  let a := add (add a b) y
  let d := (xor d a).map (rotateRight 8)
  let c := add c d
  let b := (xor b c).map (rotateRight 7)
  ⟨a, b, c, d⟩

/-- Mixes two message words into each diagonal. -/
def mixDiagonals (s : State) (x y : Row) : State :=
  let turn := Row.rotateLeft
  let t := mixColumns ⟨s.a, turn s.b, turn (turn s.c), turn (turn (turn s.d))⟩ x y
  ⟨t.a, turn (turn (turn t.b)), turn (turn t.c), turn t.d⟩

/-- Four of the sixteen message words as a row. -/
def row (words : List UInt32) (i j k l : Nat) : Row :=
  ⟨words.getD i 0, words.getD j 0, words.getD k 0, words.getD l 0⟩

/-- One round: the first eight message words go to the columns, the others to the diagonals. -/
def round (s : State) (words : List UInt32) : State :=
  mixDiagonals (mixColumns s (row words 0 2 4 6) (row words 1 3 5 7))
    (row words 8 10 12 14) (row words 9 11 13 15)

/-- Where each message word of the next round comes from. -/
def permutation : List Nat := [2, 6, 3, 10, 7, 0, 4, 13, 1, 11, 12, 5, 9, 14, 15, 8]

/-- The given number of rounds, with the message words permuted after each. -/
def rounds : Nat → List UInt32 → State → State
  | 0, _, s => s
  | n + 1, words, s => rounds n (permutation.map (words.getD · 0)) (round s words)

/-- The first half of the initial chaining value. -/
def initialLow : Row := ⟨0x6a09e667, 0xbb67ae85, 0x3c6ef372, 0xa54ff53a⟩

/-- The other half of the initial chaining value. -/
def initialHigh : Row :=
  ⟨0x510e527f, 0x9b05688c, 0x1f83d9ab, 0x5be0cd19⟩

/-- What the block is: start and end of its chunk, and the root of the tree. -/
def rootFlags : UInt32 := 1 ||| 2 ||| 8

/-- The sixteen words of a block, padded with zeros. -/
def blockWords (message : List UInt8) : List UInt32 :=
  let block := message ++ List.replicate (64 - message.length) 0
  (List.range 16).map fun i ↦ UInt32.ofNat (littleEndian ((block.drop (4 * i)).take 4))

/-- The digest of a message of at most 64 bytes. -/
def hashBlock (message : List UInt8) : Octets 32 :=
  let s := rounds 7 (blockWords message)
    ⟨initialLow, initialHigh, initialLow, ⟨0, 0, UInt32.ofNat message.length, rootFlags⟩⟩
  let words := (s.a.zip (· ^^^ ·) s.c).toList ++ (s.b.zip (· ^^^ ·) s.d).toList
  ⟨words.flatMap fun w ↦ littleEndianBytes 4 w.toNat, by simp [words, Row.toList]⟩

end HexSigner.Blake3
