import HexSigner.Json.Skip
import HexSigner.Proofs.Document.Tree
import Mathlib.Algebra.Order.Ring.Rat

/-!
# The grammar of JSON

Which texts of JSON denote which trees, said without reading: blanks between the parts, the ways to
spell a string, the forms of numbers, and lists and objects of them.  Each form relates what is left
of a text, what stands at the front of that, and what follows.

A string may spell any character out by number.  A number has any number of digits, and what it
denotes is its exact value, not the double that a reader may make of it.
-/

set_option autoImplicit false

namespace HexSigner.Json

open Document

/-- Blanks, and what follows after them. -/
def Blanks (cs rest : List Char) : Prop :=
  ∃ blanks, cs = blanks ++ rest ∧ ∀ c ∈ blanks, isBlank c = true

theorem Blanks.refl (cs : List Char) : Blanks cs cs := ⟨[], rfl, nofun⟩

/-- The inside of a string and the quote that closes it. -/
inductive Spells : List Char → List Char → List Char → Prop
  | close {rest : List Char} : Spells ('"' :: rest) [] rest
  | plain {c : Char} {cs s rest : List Char} (hquote : c ≠ '"') (hslash : c ≠ '\\')
      (hcontrol : ¬c.toNat < 0x20) (h : Spells cs s rest) : Spells (c :: cs) (c :: s) rest
  | letter {e c : Char} {cs s rest : List Char} (he : simpleEscape? e = some c)
      (h : Spells cs s rest) : Spells ('\\' :: e :: cs) (c :: s) rest
  | number {n₁ n₂ n₃ n₄ : Char} {n : Nat} {cs s rest : List Char}
      (hn : fourDigits? n₁ n₂ n₃ n₄ = some n) (hleading : isLeading n = false)
      (htrailing : isTrailing n = false) (h : Spells cs s rest) :
      Spells ('\\' :: 'u' :: n₁ :: n₂ :: n₃ :: n₄ :: cs) (Char.ofNat n :: s) rest
  /-- A character outside of the basic plane, as a leading and a trailing surrogate. -/
  | pair {n₁ n₂ n₃ n₄ m₁ m₂ m₃ m₄ : Char} {n m : Nat} {cs s rest : List Char}
      (hn : fourDigits? n₁ n₂ n₃ n₄ = some n) (hm : fourDigits? m₁ m₂ m₃ m₄ = some m)
      (hleading : isLeading n = true) (htrailing : isTrailing m = true) (h : Spells cs s rest) :
      Spells ('\\' :: 'u' :: n₁ :: n₂ :: n₃ :: n₄ :: '\\' :: 'u' :: m₁ :: m₂ :: m₃ :: m₄ :: cs)
        (Char.ofNat (0x10000 + 1024 * (n - 0xD800) + (m - 0xDC00)) :: s) rest

/-! ## Numbers -/

/-- One or more digits. -/
def DigitsForm (cs : List Char) (ds : List Nat) (rest : List Char) : Prop :=
  ∃ front, cs = front ++ rest ∧ front ≠ [] ∧ (∀ c ∈ front, c.isDigit = true) ∧
    ds = front.map fun c ↦ c.toNat - 48

/-- The digits before the point, which start with a zero only if that is all. -/
inductive WholeForm : List Char → List Nat → List Char → Prop
  | zero {rest : List Char} : WholeForm ('0' :: rest) [0] rest
  | digits {cs rest : List Char} {ds : List Nat} (h : DigitsForm cs ds rest)
      (hzero : cs.head? ≠ some '0') : WholeForm cs ds rest

/-- A point and digits, or nothing. -/
inductive FractionForm : List Char → Option (List Nat) → List Char → Prop
  | absent {rest : List Char} : FractionForm rest none rest
  | present {cs rest : List Char} {ds : List Nat} (h : DigitsForm cs ds rest) :
    FractionForm ('.' :: cs) (some ds) rest

/-- The sign of an exponent, if it has one. -/
inductive SignForm : List Char → Bool → List Char → Prop
  | absent {rest : List Char} : SignForm rest false rest
  | plus {rest : List Char} : SignForm ('+' :: rest) false rest
  | minus {rest : List Char} : SignForm ('-' :: rest) true rest

/-- A letter, a sign and digits, or nothing. -/
inductive ExponentForm : List Char → Option (Bool × List Nat) → List Char → Prop
  | absent {rest : List Char} : ExponentForm rest none rest
  | present {mark : Char} {cs ds rest : List Char} {negative : Bool} {digits : List Nat}
      (hmark : mark = 'e' ∨ mark = 'E') (hsign : SignForm cs negative ds)
      (h : DigitsForm ds digits rest) :
    ExponentForm (mark :: cs) (some (negative, digits)) rest

/-- A number without its sign. -/
def MagnitudeForm (cs : List Char) (n : Numeral) (rest : List Char) : Prop :=
  ∃ ds es, WholeForm cs n.whole ds ∧ FractionForm ds n.fraction es ∧
    ExponentForm es n.exponent rest

/-- A number. -/
inductive NumeralForm : List Char → Numeral → List Char → Prop
  | positive {cs rest : List Char} {n : Numeral} (hsign : n.negative = false)
      (h : MagnitudeForm cs n rest) : NumeralForm cs n rest
  | negative {cs rest : List Char} {n : Numeral} (hsign : n.negative = true)
      (h : MagnitudeForm cs n rest) : NumeralForm ('-' :: cs) n rest

namespace Numeral

/-- The number with some digits. -/
def ofDigits (ds : List Nat) : Nat := ds.foldl (fun n d ↦ 10 * n + d) 0

/-- A number without fraction and exponent denotes an integer. -/
def DenotesInteger (n : Numeral) (i : Int) : Prop :=
  n.fraction = none ∧ n.exponent = none ∧
    i = if n.negative then -(ofDigits n.whole : Int) else ofDigits n.whole

/-- The exponent of the last digit. -/
def lastExponent (n : Numeral) : Int :=
  (match n.exponent with
    | none => 0
    | some (negative, ds) => if negative then -(ofDigits ds : Int) else ofDigits ds) -
    (n.fraction.getD []).length

/-- A number with a fraction or an exponent denotes the decimal with the same value. -/
def DenotesDecimal (n : Numeral) (d : Decimal) : Prop :=
  (n.fraction ≠ none ∨ n.exponent ≠ none) ∧
    (ofDigits (n.whole ++ n.fraction.getD []) : ℚ) * 10 ^ n.lastExponent =
      d.digits * 10 ^ d.exponent

end Numeral

/-! ## Values -/

mutual

/-- A value. -/
inductive ValueForm : List Char → Tree → List Char → Prop
  | text {cs s rest : List Char} (h : Spells cs s rest) :
    ValueForm ('"' :: cs) (.text (String.ofList s)) rest
  | integer {cs rest : List Char} {n : Numeral} {i : Int} (h : NumeralForm cs n rest)
      (hn : n.DenotesInteger i) : ValueForm cs (.integer i) rest
  | real {cs rest : List Char} {n : Numeral} {d : Decimal} (h : NumeralForm cs n rest)
      (hn : n.DenotesDecimal d) : ValueForm cs (.real n.negative d) rest
  | true {rest : List Char} : ValueForm ('t' :: 'r' :: 'u' :: 'e' :: rest) (.boolean true) rest
  | false {rest : List Char} :
    ValueForm ('f' :: 'a' :: 'l' :: 's' :: 'e' :: rest) (.boolean false) rest
  | emptyList {cs rest : List Char} (h : Blanks cs (']' :: rest)) :
    ValueForm ('[' :: cs) (.list []) rest
  | list {cs rest : List Char} {items : List Tree} (h : ItemsForm cs items rest) :
    ValueForm ('[' :: cs) (.list items) rest
  | emptyTable {cs rest : List Char} (h : Blanks cs ('\x7d' :: rest)) :
    ValueForm ('\x7b' :: cs) (.table []) rest
  | table {cs rest : List Char} {es : Entries} (h : MembersForm cs es rest) :
    ValueForm ('\x7b' :: cs) (.table es) rest

/-- Values with commas between them, and the bracket that closes the list. -/
inductive ItemsForm : List Char → List Tree → List Char → Prop
  | last {cs ds es rest : List Char} {t : Tree} (hfront : Blanks cs ds) (h : ValueForm ds t es)
      (hback : Blanks es (']' :: rest)) : ItemsForm cs [t] rest
  | cons {cs ds es fs rest : List Char} {t : Tree} {items : List Tree} (hfront : Blanks cs ds)
      (h : ValueForm ds t es) (hback : Blanks es (',' :: fs)) (hrest : ItemsForm fs items rest) :
    ItemsForm cs (t :: items) rest

/-- Keys and values with commas between them, and the brace that closes the object. -/
inductive MembersForm : List Char → Entries → List Char → Prop
  | last {cs ks as bs ds es key rest : List Char} {t : Tree} (hfront : Blanks cs ('"' :: ks))
      (hkey : Spells ks key as) (hcolon : Blanks as (':' :: bs)) (hvalue : Blanks bs ds)
      (h : ValueForm ds t es) (hback : Blanks es ('\x7d' :: rest)) :
    MembersForm cs [(String.ofList key, t)] rest
  | cons {cs ks as bs ds es fs key rest : List Char} {t : Tree} {members : Entries}
      (hfront : Blanks cs ('"' :: ks)) (hkey : Spells ks key as) (hcolon : Blanks as (':' :: bs))
      (hvalue : Blanks bs ds) (h : ValueForm ds t es) (hback : Blanks es (',' :: fs))
      (hrest : MembersForm fs members rest) :
    MembersForm cs ((String.ofList key, t) :: members) rest

end

/-- A text denotes a tree: it is a value, with nothing but blanks around it. -/
def Denotes (text : String) (t : Tree) : Prop :=
  ∃ cs ds, Blanks text.toList cs ∧ ValueForm cs t ds ∧ Blanks ds []

end HexSigner.Json
