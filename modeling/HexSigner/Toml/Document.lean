import HexSigner.Toml.Value

/-!
# TOML documents

A document is read line by line.  The entries that follow after a header go into a table of their
own, the current one, which is put into its place when the next header or the end of the document is
reached.  So the order of the tables in the result is that in which they were finished, except that
a list of tables has the place of its first header.
-/

set_option autoImplicit false

namespace HexSigner.Toml

namespace TableOf

/-- Puts a table under a key that has no value yet. -/
def put (key : Key) (table : Table) (t : Table) : Option (Unit × Table) := do
  guard (t.find? key.name).isNone
  return ((), t.append key (.table table))

/-- Takes away a table that was made implicitly, and returns its entries, for a header of its own.
There need not be one. -/
def take (key : Key) (t : Table) : Option (List (Key × Node) × Table) :=
  match t.find? key.name with
  | none => some ([], t)
  | some (.table child) => do
    guard (child.origin = .implicit)
    return (child.entries, t.erase key.name)
  | some _ => none

/-- Makes a list of tables, unless there is one. -/
def makeList (key : Key) (t : Table) : Option (Unit × Table) :=
  match t.find? key.name with
  | none => some ((), t.append key (.tables []))
  | some (.tables _) => some ((), t)
  | some _ => none

/-- Appends a table to a list of tables. -/
def push (key : Key) (table : Table) (t : Table) : Option (Unit × Table) :=
  match t.find? key.name with
  | none => some ((), t.append key (.tables [table]))
  | some (.tables ts) => some ((), t.replace key.name (.tables (ts ++ [table])))
  | some _ => none

end TableOf

/-- Where the current table belongs. -/
inductive Place where
  /-- It is the whole document: no header was read yet. -/
  | root
  /-- It becomes the value of a key. -/
  | value (path : List Key) (key : Key)
  /-- It becomes the last table of a list. -/
  | element (path : List Key) (key : Key)

/-- A document that is being read. -/
structure Draft where
  /-- The tables that are finished. -/
  root : Table
  current : Table
  place : Place

namespace Draft

/-- The document before its first line. -/
def start : Draft := ⟨.empty .header, .empty .header, .root⟩

/-- The document if it ends here. -/
def finish (d : Draft) : Option Table :=
  match d.place with
  | .root => some d.current
  | .value path key => (d.root.update false path (TableOf.put key d.current)).map (·.2)
  | .element path key => (d.root.update false path (TableOf.push key d.current)).map (·.2)

/-- Adds an entry to the current table; `stop` is what is left after its value. -/
def addEntry (d : Draft) (path : List Key) (key : Key) (node : Node) (stop : List Char) :
    Option Draft := do
  let t ← d.current.insert? path key node
  return { d with current := { t with span := t.span.map ({ · with stop }) } }

/-- Starts a table.  If one was made implicitly before, it gets its entries, and its place anew. -/
def startTable (d : Draft) (path : List Key) (key : Key) (span : Span) : Option Draft := do
  let (old, root) ← (← d.finish).update false path (TableOf.take key)
  return { root, current := ⟨.header, old, some span⟩, place := .value path key }

/-- Starts another table of a list. -/
def startElement (d : Draft) (path : List Key) (key : Key) (span : Span) : Option Draft := do
  let ((), root) ← (← d.finish).update false path (TableOf.makeList key)
  return { root, current := ⟨.header, [], some span⟩, place := .element path key }

/-- Reads a header, whose first bracket is still there. -/
def readHeader (d : Draft) (cs : List Char) : Option (Draft × List Char) :=
  match word? ['[', '['] cs with
  | some rest => do
    let ((path, key), rest) ← key? rest
    let rest ← word? [']', ']'] rest
    return (← d.startElement path key ⟨cs, rest⟩, rest)
  | none => do
    let rest ← word? ['['] cs
    let ((path, key), rest) ← key? rest
    let rest ← word? [']'] rest
    return (← d.startTable path key ⟨cs, rest⟩, rest)

/-- Reads what a line holds before its end. -/
def readContent (d : Draft) (cs : List Char) : Option (Draft × List Char) :=
  match cs with
  | [] => some (d, [])
  | c :: _ =>
    if c = '[' then d.readHeader cs
    else if c = '#' ∨ c = '\n' ∨ c = '\r' then some (d, cs)
    else do
      let ((path, key, node), rest) ← keyValue? (value (depthLimit - 1)) cs
      return (← d.addEntry path key node rest, rest)

theorem length_le_of_readHeader {d e : Draft} {cs rest : List Char}
    (h : d.readHeader cs = some (e, rest)) : rest.length ≤ cs.length := by
  unfold readHeader at h
  split at h
  all_goals
    simp only [Option.bind_eq_bind, Option.bind_eq_some_iff] at h
    grind [→ length_lt_of_key?, → length_word?_le]

theorem length_le_of_readContent {d e : Draft} {cs rest : List Char}
    (h : d.readContent cs = some (e, rest)) : rest.length ≤ cs.length := by
  unfold readContent at h
  split at h
  · grind
  split at h
  · exact length_le_of_readHeader h
  split at h
  · grind
  · simp only [Option.bind_eq_bind, Option.bind_eq_some_iff] at h
    grind [→ length_lt_of_keyValue?]

end Draft

theorem length_lt_of_lineEnd {cs rest : List Char} (hcs : cs ≠ []) (h : lineEnd cs = some rest) :
    rest.length < cs.length := by
  have := List.length_pos_iff.2 hcs
  grind [lineEnd, length_skipBlank_le, length_skipComment_le, → length_lt_of_newline?]

/-- Reads the lines of a document. -/
def readLines (d : Draft) (cs : List Char) : Option Table :=
  match _ : skipBlank cs with
  | [] => d.finish
  | c :: rest =>
    match _ : d.readContent (c :: rest) with
    | none => none
    | some (d, rest) =>
      match _ : lineEnd rest with
      | none => none
      | some rest => readLines d rest
termination_by cs.length
decreasing_by
  have := length_skipBlank_le cs
  have := Draft.length_le_of_readContent ‹_›
  have := length_lineEnd_le ‹_›
  grind [→ length_lt_of_lineEnd]

/-- Removes the mark that a document may start with to show its encoding. -/
def dropMark : List Char → List Char
  | '\ufeff' :: cs => cs
  | cs => cs

/-- The table that a document consists of, if it is well formed. -/
def read (text : String) : Option Table := readLines .start (dropMark text.toList)

end HexSigner.Toml
