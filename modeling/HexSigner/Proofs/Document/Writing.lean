import HexSigner.Proofs.Document.Tree
import HexSigner.Text.Quoted

/-!
# Writing documents

Every tree can be written, in each format.  The formats agree on nearly everything: strings in
double quotes with the same escapes, numbers in decimal, lists in brackets and tables in braces.
They differ in what stands between a key and its value, and one of them does not allow the plus
sign, without which the other one could take a number for a date.  So there is one way to write a
tree, for a `Style` that says these two things.

Nothing is written here that anybody would like to look at: there are no blanks and no lines, and a
real number is an integer with an exponent.
-/

set_option autoImplicit false

namespace HexSigner.Document

/-- What formats differ in. -/
structure Style where
  /-- What stands between a key and its value. -/
  separator : Char
  /-- What stands before the digits of a number that is not negative. -/
  plus : List Char

/-- A character within a string. -/
def writeChar (c : Char) : List Char :=
  if c = '"' ∨ c = '\\' then ['\\', c]
  else if c.toNat < 0x20 ∨ c.toNat = 0x7f then '\\' :: 'u' :: Json.fourDigits c.toNat
  else [c]

/-- A string. -/
def writeText (s : String) : List Char := '"' :: (s.toList.flatMap writeChar ++ ['"'])

theorem writeText_append (s : String) (rest : List Char) :
    writeText s ++ rest = '"' :: (s.toList.flatMap writeChar ++ '"' :: rest) := by
  simp [writeText]

/-- The decimal digits of a number. -/
def writeDigits (n : Nat) : List Char := Nat.toDigits 10 n

namespace Style

variable (style : Style)

/-- The sign of a number. -/
def sign (negative : Bool) : List Char := if negative then ['-'] else style.plus

mutual

/-- A tree in writing. -/
def write : Tree → List Char
  | .text s => writeText s
  | .integer i => style.sign (i < 0) ++ writeDigits i.natAbs
  | .real negative d =>
    style.sign negative ++ (writeDigits d.digits ++
      'e' :: (if d.exponent < 0 then '-' else '+') :: writeDigits d.exponent.natAbs)
  | .boolean b => (if b then "true" else "false").toList
  | .list items => '[' :: writeItems items
  | .table es => '\x7b' :: writeEntries es

/-- The items of a list in writing, and the bracket that closes it. -/
def writeItems : List Tree → List Char
  | [] => [']']
  | [t] => write t ++ [']']
  | t :: items => write t ++ ',' :: writeItems items

/-- The entries of a table in writing, and the brace that closes it. -/
def writeEntries : Entries → List Char
  | [] => ['\x7d']
  | [(key, t)] => writeText key ++ style.separator :: (write t ++ ['\x7d'])
  | (key, t) :: es => writeText key ++ style.separator :: (write t ++ ',' :: writeEntries es)

end

end Style

/-! ## Digits -/

theorem isDigit_of_mem_writeDigits {n : Nat} {c : Char} (h : c ∈ writeDigits n) :
    c.isDigit = true :=
  Nat.isDigit_of_mem_toDigits (by decide) (by decide) h

theorem writeDigits_ne_nil (n : Nat) : writeDigits n ≠ [] :=
  List.ne_nil_of_length_pos Nat.length_toDigits_pos

/-- Digits start with a zero only if there is no other digit. -/
theorem head?_writeDigits {n : Nat} (h : n ≠ 0) : (writeDigits n).head? ≠ some '0' := by
  induction n using Nat.strongRecOn with
  | ind n ih =>
    rw [writeDigits, Nat.toDigits_eq_if (by decide)]
    split
    · next hn =>
      have hall : ∀ k : Fin 10, k.val ≠ 0 → Nat.digitChar k.val ≠ '0' := by decide
      simpa using hall ⟨n, hn⟩ h
    · next hn =>
      show (writeDigits (n / 10) ++ _).head? ≠ _
      rw [List.head?_append_of_ne_nil _ (writeDigits_ne_nil _)]
      exact ih (n / 10) (by omega) (by omega)

end HexSigner.Document
