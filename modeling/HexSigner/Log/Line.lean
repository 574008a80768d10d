import HexSigner.Log.Event
import HexSigner.Settings.Basic
import HexSigner.Text.Quoted

/-!
# Log lines

An event takes one line, either of text for people to read or of JSON.  The text may be in colour,
by escape sequences of the terminal.
-/

set_option autoImplicit false

namespace HexSigner.Log

/-! ## Text -/

/-- A way to set text apart on a terminal, by the number of its escape sequence. -/
structure Style where
  number : Nat

namespace Style

def bold : Style := ⟨1⟩
def dim : Style := ⟨2⟩
def italic : Style := ⟨3⟩

/-- The colour of a level. -/
def ofLevel : Level → Style
  | .error => ⟨31⟩
  | .warn => ⟨33⟩
  | .info => ⟨32⟩
  | .debug => ⟨34⟩
  | .trace => ⟨35⟩

/-- A text in a style, if styles are used. -/
def apply (coloured : Bool) (s : Style) (text : String) : String :=
  if coloured then "\x1b[" ++ toString s.number ++ "m" ++ text ++ "\x1b[0m" else text

end Style

/-- The value of a field, as it is shown in text. -/
def Field.shown (f : Field) : String := if f.isText then Text.quoted f.value else f.value

/-- The name of a level, filled up with blanks in front. -/
def Level.paddedName (l : Level) : String :=
  String.ofList (List.replicate (5 - l.name.length) ' ') ++ l.name

/-- The line of an event in text. -/
def textLine (coloured : Bool) (time : String) (e : Event) : String :=
  let style := Style.apply coloured
  let span := match e.span with
    | some o => style .bold o.name ++ style .dim ":" ++ " "
    | none => ""
  style .dim time ++ " " ++ style (.ofLevel e.level) e.level.paddedName ++ " ThreadId(01) " ++
    span ++ style .dim e.target ++ style .dim ":" ++ " " ++ e.message ++
    String.join (e.fields.map fun f ↦ " " ++ style .italic f.name ++ style .dim "=" ++ f.shown) ++
    "\n"

/-! ## JSON -/

/-- A member of a JSON object whose value is a string. -/
def member (name value : String) : String := Json.quoted name ++ ":" ++ Json.quoted value

/-- The line of an event in JSON. -/
def jsonLine (time : String) (e : Event) : String :=
  let fields := member "message" e.message :: e.fields.map fun f ↦ member f.name f.value
  let span := match e.span with
    | some o =>
      let name := "\x7b" ++ member "name" o.name ++ "\x7d"
      ",\"span\":" ++ name ++ ",\"spans\":[" ++ name ++ "]"
    | none => ""
  "\x7b" ++ member "timestamp" time ++ "," ++ member "level" e.level.name ++
    ",\"fields\":\x7b" ++ ",".intercalate fields ++ "\x7d," ++ member "target" e.target ++ span ++
    "," ++ member "threadId" "ThreadId(1)" ++ "\x7d\n"

/-- The line of an event. -/
def line (format : LogFormat) (coloured : Bool) (time : String) (e : Event) : String :=
  match format with
  | .text => textLine coloured time e
  | .json => jsonLine time e

end HexSigner.Log
