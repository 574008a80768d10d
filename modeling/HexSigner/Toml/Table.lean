import HexSigner.Toml.Scalar

/-!
# Tables of TOML

A document is a table, whose entries are values, tables, or lists of tables.  What may be added to a
table depends on how it came about.

* A table under a *header* is finished with the next header.
* A table that a header only passed through, *implicitly*, may get a header of its own later.
* A table made by a *dotted* key may get further entries by dotted keys, but never a header.
* An *inline* table, between braces, is finished with its closing brace.

Entries keep the order in which they came.  Everything that a message may point to has a `Span`, a
stretch of the document; a table that has no header and no braces has none.
-/

set_option autoImplicit false

namespace HexSigner.Toml

/-- A stretch of a document, given by what is left of the document at its start and at its end. -/
structure Span where
  start : List Char
  stop : List Char
deriving Inhabited

/-- A key, and where it stands. -/
structure Key where
  name : String
  span : Span
deriving Inhabited

/-- How a table came about. -/
inductive Origin where
  | header
  | implicit
  | dotted
  | inline
deriving DecidableEq, Repr, Inhabited

/-- A table whose values are of type `ν`. -/
structure TableOf (ν : Type) where
  origin : Origin
  entries : List (Key × ν)
  span : Option Span
deriving Inhabited

/-- What a key of a document stands for. -/
inductive Node where
  | scalar (value : Scalar) (span : Span)
  | list (elements : List Node) (span : Span)
  | table (table : TableOf Node)
  /-- Tables under headers with double brackets. -/
  | tables (tables : List (TableOf Node))

instance : Inhabited Node := ⟨.tables []⟩

/-- A table of a document. -/
abbrev Table : Type := TableOf Node

/-- The stretch from the start of the first table of a list to the end of the last one. -/
def spanOfTables (tables : List Table) : Option Span :=
  match tables.head?.bind (·.span), tables.getLast?.bind (·.span) with
  | some first, some last => some ⟨first.start, last.stop⟩
  | _, _ => none

/-- Where something stands in a document. -/
def Node.span? : Node → Option Span
  | .scalar _ span => some span
  | .list _ span => some span
  | .table t => t.span
  | .tables ts => spanOfTables ts

namespace TableOf

/-- A table without entries. -/
def empty (origin : Origin) : Table := ⟨origin, [], none⟩

/-- The value of a key. -/
def find? (t : Table) (name : String) : Option Node :=
  (t.entries.find? fun (key, _) ↦ key.name = name).map (·.2)

/-- A table with another entry at the end. -/
def append (t : Table) (key : Key) (node : Node) : Table :=
  { t with entries := t.entries ++ [(key, node)] }

/-- A table with another value for a key that it has. -/
def replace (t : Table) (name : String) (node : Node) : Table :=
  { t with
    entries := t.entries.map fun (key, old) ↦ (key, if key.name = name then node else old) }

/-- A table without a key. -/
def erase (t : Table) (name : String) : Table :=
  { t with entries := t.entries.filter fun (key, _) ↦ key.name ≠ name }

/-- Goes along a path and changes the table at its end; tables that are missing on the way are made.
Of a list of tables, the last one is meant.  A path of `dotted` keys does not lead into tables that
are finished. -/
def update {α : Type} (dotted : Bool) :
    List Key → (Table → Option (α × Table)) → Table → Option (α × Table)
  | [], change, t => change t
  | key :: path, change, t =>
    match t.find? key.name with
    | none => do
      let (a, child) ← update dotted path change (empty (if dotted then .dotted else .implicit))
      return (a, t.append key (.table child))
    | some (.table child) => do
      guard (child.origin ≠ .inline)
      guard (dotted → child.origin ≠ .header)
      let (a, child) ← update dotted path change child
      return (a, t.replace key.name (.table child))
    | some (.tables ts) => do
      let last ← ts.getLast?
      let (a, last) ← update dotted path change last
      return (a, t.replace key.name (.tables (ts.dropLast ++ [last])))
    | some _ => none

/-- Adds an entry under a dotted key.  The keys before the last one lead to a table that was made by
dotted keys, too, and must not have the last one yet. -/
def insert? (path : List Key) (key : Key) (node : Node) (t : Table) : Option Table :=
  (update true path
    (fun t ↦ do
      guard (path ≠ [] → t.origin = .dotted)
      guard (t.find? key.name).isNone
      return ((), t.append key node))
    t).map (·.2)

end TableOf

end HexSigner.Toml
