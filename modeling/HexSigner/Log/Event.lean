/-!
# Events

What the signer tells about its work, apart from its answers.  An event has a level, a target that
says which part of the program it comes from, the operation it happened in, a message and further
fields.

Operations do not write events anywhere.  They return them beside their value, as `Logged`, and
whoever runs the operation decides whether they are shown and how.
-/

set_option autoImplicit false

namespace HexSigner

namespace Log

/-- How important an event is, the most important first. -/
inductive Level where
  | error
  | warn
  | info
  | debug
  | trace
deriving DecidableEq, Repr

namespace Level

/-- The place of a level, from 1 for the most important one. -/
def rank : Level → Nat
  | .error => 1
  | .warn => 2
  | .info => 3
  | .debug => 4
  | .trace => 5

/-- The name of a level. -/
def name : Level → String
  | .error => "ERROR"
  | .warn => "WARN"
  | .info => "INFO"
  | .debug => "DEBUG"
  | .trace => "TRACE"

end Level

/-- A field of an event. -/
structure Field where
  name : String
  value : String
  /-- Whether the value is a text of its own, which is shown in quotation marks, and not the wording
  of something else. -/
  isText : Bool
deriving DecidableEq, Repr

/-- An operation of a part of the program. -/
structure Operation where
  name : String
  target : String
deriving DecidableEq, Repr

/-- An event. -/
structure Event where
  level : Level
  target : String
  /-- The operation that was under way. -/
  span : Option Operation
  message : String
  fields : List Field
deriving DecidableEq, Repr

end Log

/-- A value, and the events that occurred on the way to it. -/
structure Logged (α : Type) where
  value : α
  events : List Log.Event

/-- What comes of something that may fail before any event occurs. -/
def Logged.ofExcept {ε α : Type} : Except ε (Logged α) → Logged (Except ε α)
  | .error e => ⟨.error e, []⟩
  | .ok a => ⟨.ok a.value, a.events⟩

end HexSigner
