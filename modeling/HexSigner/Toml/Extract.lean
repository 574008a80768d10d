import HexSigner.Toml.Misfit

/-!
# Taking what is expected out of a document

The counterpart, for tables, of reading a text with a certain content in mind: an `Extract` makes a
value of one type from a part of a document.  The fields of a structure may be the entries of a
table, in any order, or the elements of a list, in the order of the structure.  Fields that are not
there keep the value they had, and whatever else is there does not matter.

A date or time passes for a table that has none of the entries.
-/

set_option autoImplicit false

namespace HexSigner.Toml

/-- A way to make a value from a part of a document. -/
abbrev Extract (α : Type) : Type := Node → Except Misfit α

/-- The kind of a scalar. -/
def Scalar.kind : Scalar → String
  | .text _ => "string"
  | .integer _ => "integer"
  | .real _ => "float"
  | .boolean _ => "boolean"
  | .moment => "datetime"

/-- What a part of a document is, for a message. -/
def Node.found : Node → Document.Found
  | .scalar (.text s) _ => .text s
  | .scalar (.integer i) _ => .integer i
  | .scalar (.real x) _ => .real x
  | .scalar (.boolean b) _ => .boolean b
  | .scalar .moment _ => .map
  | .list _ _ => .sequence
  | .table _ => .map
  | .tables _ => .sequence

/-- A part of a document that is not what was expected. -/
def unexpected (expected : String) (node : Node) : Misfit :=
  ⟨.mismatch (.kind node.found expected), node.span?⟩

namespace Extract

/-- A string. -/
def text : Extract String
  | .scalar (.text s) _ => .ok s
  | node => .error (unexpected "a string" node)

/-- A truth value. -/
def boolean : Extract Bool
  | .scalar (.boolean b) _ => .ok b
  | node => .error (unexpected "a boolean" node)

/-! ## Choices -/

/-- The value of the name of a choice must be empty. -/
def empty : Extract Unit
  | .scalar s span => .error ⟨.scalarContent s.kind, some span⟩
  | .list [] _ => .ok ()
  | .list (_ :: _) span => .error ⟨.content, some span⟩
  | .table t => if t.entries.isEmpty then .ok () else .error ⟨.content, t.span⟩
  | .tables [] => .ok ()
  | .tables ts => .error ⟨.tablesContent, spanOfTables ts⟩

/-- The choice with a name, which stands at `span`. -/
def named {α : Type} (known : List (String × α)) (name : String) (span : Span) :
    Except Misfit α :=
  match known.lookup name with
  | some a => .ok a
  | none => .error ⟨.mismatch (.unknownName name (known.map (·.1))), some span⟩

/-- One of the known choices: its name, or a table whose only key is the name. -/
def choice {α : Type} (known : List (String × α)) : Extract α
  | .scalar (.text name) span => named known name span
  | .table t =>
    match t.entries with
    | [] => .error ⟨.noName, t.span⟩
    | [(key, node)] => do
      let a ← named known key.name key.span
      (empty node).mapError (·.locate t.span)
      return a
    | _ => .error ⟨.severalNames, t.span⟩
  | node => .error ⟨.notChoice, node.span?⟩

/-! ## Structures -/

/-- A field of a structure. -/
structure Field (ρ : Type) where
  name : String
  /-- Puts the value of the field into a structure. -/
  extract : ρ → Extract ρ

/-- The field with a name, a way to make its value and a way to put it into a structure. -/
def Field.of {ρ α : Type} (name : String) (value : Extract α) (put : ρ → α → ρ) : Field ρ where
  name := name
  extract r node := (value node).map (put r)

variable {ρ : Type}

/-- Goes through the entries of a table. -/
def entries (fields : List (Field ρ)) : ρ → List (Key × Node) → Except Misfit ρ
  | r, [] => .ok r
  | r, (key, node) :: rest =>
    match fields.find? (·.name = key.name) with
    | none => entries fields r rest
    | some field =>
      match field.extract r node with
      | .error m => .error (m.locate (node.span? <|> some key.span))
      | .ok r => entries fields r rest

/-- Goes through the elements of a list, each of which belongs to the next field. -/
def elements : List (Field ρ) → ρ → List Node → Except Misfit ρ
  | field :: fields, r, node :: nodes =>
    match field.extract r node with
    | .error m => .error m
    | .ok r => elements fields r nodes
  | _, r, _ => .ok r

/-- A structure, described by `expected`; what the document leaves out is as in `r`. -/
def record (expected : String) (fields : List (Field ρ)) (r : ρ) : Extract ρ
  | .table t => entries fields r t.entries
  | .list nodes _ => elements fields r nodes
  | .tables ts => elements fields r (ts.map .table)
  | .scalar .moment _ => .ok r
  | node => .error (unexpected expected node)

end Extract

end HexSigner.Toml
