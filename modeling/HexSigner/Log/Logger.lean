import HexSigner.Log.Filter
import HexSigner.Log.Line

/-!
# Loggers

A logger writes the events that its filter selects, each as a line in its format.  A process has no
logger at first, and at most one ever.
-/

set_option autoImplicit false

namespace HexSigner.Log

/-- What decides how events are shown. -/
structure Logger where
  filter : Filter
  format : LogFormat
deriving DecidableEq, Repr

namespace Logger

/-- The logger for some settings, unless its filter cannot be read, and warnings about the filter.
The filter that the environment gives comes before the one of the settings. -/
def ofSettings (requested : Option String) (s : LogSettings) :
    Except Directive.BadCut Logger × List String :=
  let reading := Filter.choose requested s.level
  (reading.filter.map fun f ↦ ⟨f, s.format⟩, reading.warnings)

/-- What is written of some events. -/
def write (l : Logger) (coloured : Bool) (time : String) (events : List Event) : String :=
  String.join ((events.filterMap l.filter.select).map (line l.format coloured time))

/-- Why a logger cannot be installed. -/
inductive Fault where
  /-- The process has a logger. -/
  | alreadyInstalled
deriving DecidableEq, Repr

/-- The wording of a fault. -/
def Fault.message : Fault → String
  | .alreadyInstalled => "a global default trace dispatcher has already been set"

/-- Makes a logger the one of a process, unless that has one. -/
def install (installed : Option Logger) (l : Logger) : Except Fault Logger :=
  match installed with
  | none => .ok l
  | some _ => .error .alreadyInstalled

end Logger

end HexSigner.Log
