import HexSigner.Proofs.Json.Grammar
import HexSigner.Proofs.Toml.Statements

/-!
# The grammar of TOML

Which texts of TOML denote which trees, said without reading.  Each form relates what is left of a
text, what stands at the front of that, and what follows.

* A string has four forms: in one line or over several, and with escapes or without.
* A number may have underscores between its digits.  What it denotes is its exact value, and not the
  double that a reader may make of it.
* A key is bare or quoted, and keys with dots between them lead through tables.
* A list may be spread over lines, with comments, and may end with a comma.
* An inline table has its entries between braces, and a document has lines: headers of tables, with
  one bracket or two, and entries of the table whose header came last.

Entries and headers are statements, and a table or a document denotes what its statements say
together (`Tabulates`).  Trees have no dates and times and no infinite numbers, so a text with any
of these does not denote a tree.
-/

set_option autoImplicit false

namespace HexSigner.Toml

open Document

/-! ## Blanks, line breaks and comments -/

/-- A character that may stand between the parts of a line. -/
def IsBlank (c : Char) : Prop := c = ' ' ∨ c = '\t'

instance (c : Char) : Decidable (IsBlank c) := inferInstanceAs (Decidable (_ ∨ _))

/-- A character that may stand for itself: any but control characters, and tabs. -/
def IsText (c : Char) : Prop := c = '\t' ∨ 0x20 ≤ c.toNat ∧ c.toNat ≠ 0x7f

instance (c : Char) : Decidable (IsText c) := inferInstanceAs (Decidable (_ ∨ _))

/-- Blanks, and what follows after them. -/
def Blanks (cs rest : List Char) : Prop := ∃ blanks, cs = blanks ++ rest ∧ ∀ c ∈ blanks, IsBlank c

theorem Blanks.refl (cs : List Char) : Blanks cs cs := ⟨[], rfl, List.forall_mem_nil _⟩

/-- A line break. -/
inductive Break : List Char → List Char → Prop
  | feed {rest : List Char} : Break ('\n' :: rest) rest
  | both {rest : List Char} : Break ('\r' :: '\n' :: rest) rest

/-- A comment, without the end of its line. -/
def Comment (cs rest : List Char) : Prop :=
  ∃ body, cs = '#' :: (body ++ rest) ∧ ∀ c ∈ body, IsText c

/-- Blanks, perhaps a comment, and a line break unless the text ends there. -/
def EndOfLine (cs rest : List Char) : Prop :=
  ∃ ds es, Blanks cs ds ∧ (ds = es ∨ Comment ds es) ∧ (Break es rest ∨ es = [] ∧ rest = [])

/-- Blanks and line breaks. -/
inductive Space : List Char → List Char → Prop
  | refl (cs : List Char) : Space cs cs
  | blank {c : Char} {cs rest : List Char} (hc : IsBlank c) (h : Space cs rest) :
    Space (c :: cs) rest
  | newline {cs ds rest : List Char} (hbreak : Break cs ds) (h : Space ds rest) : Space cs rest

/-- Blanks and line breaks, some of them with a comment before them. -/
inductive Filler : List Char → List Char → Prop
  | refl (cs : List Char) : Filler cs cs
  | blank {c : Char} {cs rest : List Char} (hc : IsBlank c) (h : Filler cs rest) :
    Filler (c :: cs) rest
  | newline {cs ds rest : List Char} (hbreak : Break cs ds) (h : Filler ds rest) : Filler cs rest
  | comment {cs ds es rest : List Char} (hcomment : Comment cs ds) (hbreak : Break ds es)
      (h : Filler es rest) : Filler cs rest

/-! ## Strings -/

/-- A digit of a base, in either letter case, and its value. -/
def IsDigit (base : Nat) (c : Char) (d : Nat) : Prop :=
  d < base ∧ (c = Nat.digitChar d ∨ c = (Nat.digitChar d).toUpper)

/-- The number with some digits. -/
def ofDigits (base : Nat) (ds : List Nat) : Nat := ds.foldl (fun n d ↦ base * n + d) 0

/-- The letters that escape a character. -/
def escapes : List (Char × Char) :=
  [('b', '\x08'), ('t', '\t'), ('n', '\n'), ('f', '\x0c'), ('r', '\r'), ('"', '"'), ('\\', '\\')]

/-- What follows after a backslash: a letter, or a code point. -/
inductive Escape : List Char → Char → List Char → Prop
  | letter {e c : Char} {rest : List Char} (h : (e, c) ∈ escapes) : Escape (e :: rest) c rest
  | number {mark c : Char} {ds rest : List Char} {ns : List Nat}
      (hmark : (mark, ds.length) ∈ [('u', 4), ('U', 8)]) (hds : List.Forall₂ (IsDigit 16) ds ns)
      (hc : c.toNat = ofDigits 16 ns) : Escape (mark :: (ds ++ rest)) c rest

/-- The inside of a string in one line, and the quote that closes it.  A backslash is a character
like any other in single quotes. -/
inductive LineText (quote : Char) : List Char → List Char → List Char → Prop
  | close {rest : List Char} : LineText quote (quote :: rest) [] rest
  | plain {c : Char} {cs s rest : List Char} (hquote : c ≠ quote)
      (hslash : quote = '"' → c ≠ '\\') (htext : IsText c) (h : LineText quote cs s rest) :
      LineText quote (c :: cs) (c :: s) rest
  | escape {c : Char} {cs ds s rest : List Char} (hquote : quote = '"') (hc : Escape cs c ds)
      (h : LineText quote ds s rest) : LineText quote ('\\' :: cs) (c :: s) rest

/-- The inside of a string over several lines, and the three quotes that close it.  One or two more
quotes may come right before these, and anywhere else. -/
inductive LinesText (quote : Char) : List Char → List Char → List Char → Prop
  | close {rest : List Char} {count : Nat} (hcount : count ≤ 2) :
    LinesText quote (List.replicate (count + 3) quote ++ rest) (List.replicate count quote) rest
  | quote {cs s rest : List Char} (hquotes : ¬[quote, quote] <+: cs)
      (h : LinesText quote cs s rest) : LinesText quote (quote :: cs) (quote :: s) rest
  | plain {c : Char} {cs s rest : List Char} (hquote : c ≠ quote)
      (hslash : quote = '"' → c ≠ '\\') (htext : IsText c) (h : LinesText quote cs s rest) :
      LinesText quote (c :: cs) (c :: s) rest
  | newline {cs ds s rest : List Char} (hbreak : Break cs ds) (h : LinesText quote ds s rest) :
    LinesText quote cs ('\n' :: s) rest
  | escape {c : Char} {cs ds s rest : List Char} (hquote : quote = '"') (hc : Escape cs c ds)
      (h : LinesText quote ds s rest) : LinesText quote ('\\' :: cs) (c :: s) rest
  /-- A backslash at the end of a line takes all blanks and line breaks after it away. -/
  | fold {cs ds es fs s rest : List Char} (hquote : quote = '"') (hblanks : Blanks cs ds)
      (hbreak : Break ds es) (hspace : Space es fs) (hall : ∀ gs, Space fs gs → gs = fs)
      (h : LinesText quote fs s rest) : LinesText quote ('\\' :: cs) s rest

/-- Quotes of either kind. -/
def IsQuote (c : Char) : Prop := c = '"' ∨ c = '\''

instance (c : Char) : Decidable (IsQuote c) := inferInstanceAs (Decidable (_ ∨ _))

/-- A string. -/
inductive TextForm : List Char → List Char → List Char → Prop
  | line {quote : Char} {cs s rest : List Char} (hquote : IsQuote quote)
      (h : LineText quote cs s rest) : TextForm (quote :: cs) s rest
  | lines {quote : Char} {cs s rest : List Char} (hquote : IsQuote quote)
      (hfirst : ∀ ds, ¬Break cs ds) (h : LinesText quote cs s rest) :
      TextForm (quote :: quote :: quote :: cs) s rest
  /-- A line break right after the opening quotes does not count. -/
  | linesBelow {quote : Char} {cs ds s rest : List Char} (hquote : IsQuote quote)
      (hfirst : Break cs ds) (h : LinesText quote ds s rest) :
      TextForm (quote :: quote :: quote :: cs) s rest

/-! ## Keys -/

/-- A character of a bare key. -/
def IsBare (c : Char) : Prop := c.isAlphanum = true ∨ c = '-' ∨ c = '_'

instance (c : Char) : Decidable (IsBare c) := inferInstanceAs (Decidable (_ ∨ _))

/-- A single key. -/
inductive SimpleKey : List Char → String → List Char → Prop
  | bare {name rest : List Char} (hne : name ≠ []) (h : ∀ c ∈ name, IsBare c) :
    SimpleKey (name ++ rest) (String.ofList name) rest
  | quoted {quote : Char} {cs s rest : List Char} (hquote : IsQuote quote)
      (h : LineText quote cs s rest) : SimpleKey (quote :: cs) (String.ofList s) rest

/-- Keys with dots between them, and blanks around each of them. -/
inductive KeyForm : List Char → List String → List Char → Prop
  | last {cs ds es rest : List Char} {key : String} (hfront : Blanks cs ds)
      (h : SimpleKey ds key es) (hback : Blanks es rest) : KeyForm cs [key] rest
  | dot {cs ds es fs rest : List Char} {key : String} {keys : List String} (hfront : Blanks cs ds)
      (h : SimpleKey ds key es) (hback : Blanks es ('.' :: fs)) (hmore : KeyForm fs keys rest) :
      KeyForm cs (key :: keys) rest

/-! ## Numbers -/

/-- Digits, some of them with an underscore between them. -/
inductive Digits (base : Nat) : List Char → List Nat → List Char → Prop
  | last {c : Char} {d : Nat} {rest : List Char} (hd : IsDigit base c d) :
    Digits base (c :: rest) [d] rest
  | cons {c : Char} {d : Nat} {cs rest : List Char} {ds : List Nat} (hd : IsDigit base c d)
      (h : Digits base cs ds rest) : Digits base (c :: cs) (d :: ds) rest
  | underscore {c : Char} {d : Nat} {cs rest : List Char} {ds : List Nat} (hd : IsDigit base c d)
      (h : Digits base cs ds rest) : Digits base (c :: '_' :: cs) (d :: ds) rest

/-- The digits before the point, which start with a zero only if that is all. -/
inductive WholeForm : List Char → List Nat → List Char → Prop
  | zero {rest : List Char} : WholeForm ('0' :: rest) [0] rest
  | digits {cs rest : List Char} {ds : List Nat} (h : Digits 10 cs ds rest)
      (hzero : cs.head? ≠ some '0') : WholeForm cs ds rest

/-- A point and digits, or nothing. -/
inductive FractionForm : List Char → Option (List Nat) → List Char → Prop
  | absent {rest : List Char} : FractionForm rest none rest
  | present {cs rest : List Char} {ds : List Nat} (h : Digits 10 cs ds rest) :
    FractionForm ('.' :: cs) (some ds) rest

/-- A letter, a sign and digits, or nothing. -/
inductive ExponentForm : List Char → Option (Bool × List Nat) → List Char → Prop
  | absent {rest : List Char} : ExponentForm rest none rest
  | present {mark : Char} {cs ds rest : List Char} {negative : Bool} {digits : List Nat}
      (hmark : mark = 'e' ∨ mark = 'E') (hsign : Json.SignForm cs negative ds)
      (h : Digits 10 ds digits rest) : ExponentForm (mark :: cs) (some (negative, digits)) rest

/-- A number in base ten. -/
def NumeralForm (cs : List Char) (n : Json.Numeral) (rest : List Char) : Prop :=
  ∃ ds es fs, Json.SignForm cs n.negative ds ∧ WholeForm ds n.whole es ∧
    FractionForm es n.fraction fs ∧ ExponentForm fs n.exponent rest

/-- The letters of the other bases. -/
def bases : List (Char × Nat) := [('x', 16), ('o', 8), ('b', 2)]

/-! ## Values -/

mutual

/-- A value. -/
inductive ValueForm : List Char → Tree → List Char → Prop
  | text {cs s rest : List Char} (h : TextForm cs s rest) :
    ValueForm cs (.text (String.ofList s)) rest
  | integer {cs rest : List Char} {n : Json.Numeral} {i : Int} (h : NumeralForm cs n rest)
      (hn : n.DenotesInteger i) : ValueForm cs (.integer i) rest
  | based {letter : Char} {base : Nat} {cs rest : List Char} {ds : List Nat}
      (hbase : (letter, base) ∈ bases) (h : Digits base cs ds rest) :
      ValueForm ('0' :: letter :: cs) (.integer (ofDigits base ds)) rest
  | real {cs rest : List Char} {n : Json.Numeral} {d : Decimal} (h : NumeralForm cs n rest)
      (hn : n.DenotesDecimal d) : ValueForm cs (.real n.negative d) rest
  | true {rest : List Char} : ValueForm ('t' :: 'r' :: 'u' :: 'e' :: rest) (.boolean true) rest
  | false {rest : List Char} :
    ValueForm ('f' :: 'a' :: 'l' :: 's' :: 'e' :: rest) (.boolean false) rest
  | list {cs rest : List Char} {items : List Tree} (h : ItemsForm cs items rest) :
    ValueForm ('[' :: cs) (.list items) rest
  | emptyTable {cs rest : List Char} (h : Blanks cs ('\x7d' :: rest)) :
    ValueForm ('\x7b' :: cs) (.table []) rest
  | table {cs rest : List Char} {ss : List Statement} {es : Entries} (h : EntriesForm cs ss rest)
      (hes : Tabulates ss es) : ValueForm ('\x7b' :: cs) (.table es) rest

/-- Values with commas between them, and the bracket that closes the list. -/
inductive ItemsForm : List Char → List Tree → List Char → Prop
  | done {cs rest : List Char} (h : Filler cs (']' :: rest)) : ItemsForm cs [] rest
  | last {cs ds es rest : List Char} {t : Tree} (hfront : Filler cs ds) (h : ValueForm ds t es)
      (hback : Filler es (']' :: rest)) : ItemsForm cs [t] rest
  | cons {cs ds es fs rest : List Char} {t : Tree} {items : List Tree} (hfront : Filler cs ds)
      (h : ValueForm ds t es) (hback : Filler es (',' :: fs)) (hmore : ItemsForm fs items rest) :
      ItemsForm cs (t :: items) rest

/-- An entry: keys, an equals sign and a value. -/
inductive EntryForm : List Char → Statement → List Char → Prop
  | intro {cs ds es rest : List Char} {keys : List String} {t : Tree}
      (hkey : KeyForm cs keys ('=' :: ds)) (hblanks : Blanks ds es) (h : ValueForm es t rest) :
      EntryForm cs ⟨keyPath keys, .value t⟩ rest

/-- Entries with commas between them, and the brace that closes the table. -/
inductive EntriesForm : List Char → List Statement → List Char → Prop
  | last {cs ds rest : List Char} {s : Statement} (h : EntryForm cs s ds)
      (hback : Blanks ds ('\x7d' :: rest)) : EntriesForm cs [s] rest
  | cons {cs ds es rest : List Char} {s : Statement} {ss : List Statement} (h : EntryForm cs s ds)
      (hback : Blanks ds (',' :: es)) (hmore : EntriesForm es ss rest) :
      EntriesForm cs (s :: ss) rest

end

/-! ## Documents -/

/-- The lines of a document, below the header of the table that entries belong to. -/
inductive LinesForm : List String → List Char → List Statement → Prop
  | done {keys : List String} : LinesForm keys [] []
  | empty {keys : List String} {cs ds : List Char} {ss : List Statement} (hend : EndOfLine cs ds)
      (hmore : LinesForm keys ds ss) : LinesForm keys cs ss
  | entry {keys : List String} {cs ds es : List Char} {s : Statement} {ss : List Statement}
      (h : EntryForm cs s ds) (hend : EndOfLine ds es) (hmore : LinesForm keys es ss) :
      LinesForm keys cs (s.under keys :: ss)
  | header {keys new : List String} {cs ds es fs : List Char} {ss : List Statement}
      (hfront : Blanks cs ('[' :: ds)) (hkey : KeyForm ds new (']' :: es))
      (hend : EndOfLine es fs) (hmore : LinesForm new fs ss) :
      LinesForm keys cs (⟨headerPath new, .header⟩ :: ss)
  | element {keys new : List String} {cs ds es fs : List Char} {ss : List Statement}
      (hfront : Blanks cs ('[' :: '[' :: ds)) (hkey : KeyForm ds new (']' :: ']' :: es))
      (hend : EndOfLine es fs) (hmore : LinesForm new fs ss) :
      LinesForm keys cs (⟨headerPath new, .element⟩ :: ss)

/-- A text denotes a tree: it is made of lines, after a mark of its encoding if it has one, and its
statements say what the entries of the tree are. -/
def Denotes (text : String) (t : Tree) : Prop :=
  ∃ cs ss es, (text.toList = cs ∨ text.toList = '\ufeff' :: cs) ∧ LinesForm [] cs ss ∧
    Tabulates ss es ∧ t = .table es

end HexSigner.Toml
