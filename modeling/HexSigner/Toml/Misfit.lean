import HexSigner.Document.Mismatch
import HexSigner.Text.Basic
import HexSigner.Toml.Table

/-!
# What does not fit in a TOML document

A well-formed document may hold something else than what was asked for.  The message shows the line
where that is and underlines it; if it spans several lines, as far as the first one goes.
-/

set_option autoImplicit false

namespace HexSigner.Toml

/-- What is wrong with a part of a document. -/
inductive Complaint where
  | mismatch (mismatch : Document.Mismatch)
  /-- A choice is neither a name nor a table. -/
  | notChoice
  /-- A choice is a table without entries. -/
  | noName
  /-- A choice is a table with several entries. -/
  | severalNames
  /-- The name of a choice has a scalar as its value. -/
  | scalarContent (kind : String)
  /-- The name of a choice has a value with parts. -/
  | content
  /-- The name of a choice has tables as its value. -/
  | tablesContent
deriving DecidableEq, Repr

/-- The wording of a complaint. -/
def Complaint.message : Complaint → String
  | .mismatch m => m.message Binary64.plainText
  | .notChoice => "wanted string or table"
  | .noName => "wanted exactly 1 element, found 0 elements"
  | .severalNames => "wanted exactly 1 element, more than 1 element"
  | .scalarContent kind => "expected table, found " ++ kind
  | .content => "expected empty table"
  | .tablesContent => "expected empty array"

/-- What is wrong with a part of a document, and where that part stands. -/
structure Misfit where
  complaint : Complaint
  span : Option Span

/-- A misfit that has no place yet, at a place. -/
def Misfit.locate (span : Option Span) (m : Misfit) : Misfit :=
  { m with span := m.span <|> span }

/-- The characters of the last line. -/
def lastLine (cs : List Char) : List Char := (cs.reverse.takeWhile (· ≠ '\n')).reverse

/-- The line of a document in which a span starts, with the span underlined. -/
def Span.excerpt (text : String) (span : Span) : String :=
  let cs := text.toList
  let before := cs.take (cs.length - span.start.length)
  let indent := lastLine before
  let line := indent ++ span.start.takeWhile (· ≠ '\n')
  let number := toString (before.count '\n' + 1)
  let margin := String.ofList (List.replicate (number.length + 1) ' ')
  let width := min (Text.byteLength span.start - Text.byteLength span.stop)
    (Text.byteLength line - indent.length)
  "TOML parse error at line " ++ number ++ ", column " ++ toString (indent.length + 1) ++ "\n" ++
    margin ++ "|\n" ++
    number ++ " | " ++ String.ofList line ++ "\n" ++
    margin ++ "|" ++ String.ofList (List.replicate (indent.length + 1) ' ') ++
    String.ofList (List.replicate (max 1 width) '^') ++ "\n"

/-- The wording of a misfit in a document. -/
def Misfit.message (text : String) (m : Misfit) : String :=
  (match m.span with
    | some span => span.excerpt text
    | none => "") ++ m.complaint.message ++ "\n"

end HexSigner.Toml
