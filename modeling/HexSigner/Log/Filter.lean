import HexSigner.Log.Directive

/-!
# Filters

A filter is a list of directives, separated by commas, and decides which events are shown.

* A directive that names an operation, or a field with a value, is about operations.  While an
  operation that it names is under way, all events pass that are important enough.  A directive
  replaces those before it that differ from it in the level alone.
* A directive that names neither is about events.  Of those that are about an event, the most
  specific one decides: the one with the longest target, then the one with a field.

The operation that an event occurs in is shown with it, provided that the filter lets the operation
itself pass.

The filter may come from the environment, where it has to be right as a whole; otherwise the
settings give one, of which the parts that are wrong are ignored with a warning.
-/

set_option autoImplicit false

namespace HexSigner.Log

/-- A list of directives, in the order in which they were given. -/
structure Filter where
  directives : List Directive
deriving DecidableEq, Repr

namespace Directive

/-- Whether a directive is about the events with a target. -/
def concerns (d : Directive) (target : String) : Bool :=
  match d.target with
  | none => true
  | some t => t.toList.isPrefixOf target.toList

/-- Whether a directive is about events wherever they occur. -/
def isAboutEvents (d : Directive) : Bool :=
  d.span.isNone && (d.field.bind (·.2)).isNone

/-- What makes one directive more specific than another, the most important first.  The last two
components only make the order total. -/
def specificity (d : Directive) : Nat × Nat × String × String :=
  ((d.target.map fun t ↦ t.utf8ByteSize + 1).getD 0, if d.field.isSome then 1 else 0,
    d.target.getD "", (d.field.map (·.1)).getD "")

/-- Whether a directive is less specific than another one. -/
def isLessSpecific (d e : Directive) : Bool :=
  let (target, field, name, fieldName) := d.specificity
  let (target', field', name', fieldName') := e.specificity
  target < target' ||
    target = target' && (field < field' ||
      field = field' && (name < name' || name = name' && fieldName < fieldName'))

end Directive

namespace Filter

/-- The most specific of some directives; of those that are equally specific, the last one. -/
def mostSpecific? (ds : List Directive) : Option Directive :=
  ds.foldl
    (fun best d ↦
      match best with
      | none => some d
      | some b => if d.isLessSpecific b then some b else some d)
    none

/-- Whether the directives about events let something pass: an event with the given fields or, if
there are none, an operation. -/
def passes (f : Filter) (target : String) (fields : Option (List String)) (level : Level) : Bool :=
  let concerned := f.directives.filter fun d ↦
    d.isAboutEvents && d.concerns target &&
      match fields, d.field with
      | some names, some (name, _) => names.contains name
      | _, _ => true
  match mostSpecific? concerned with
  | none => false
  | some d => d.threshold.admits level

/-- Of directives that differ in their thresholds alone, the last one. -/
def latest : List Directive → List Directive
  | [] => []
  | d :: ds =>
    if ds.any fun e ↦ e.target = d.target ∧ e.span = d.span ∧ e.field = d.field then latest ds
    else d :: latest ds

/-- The directives that are about an operation.  No operation has fields of its own, so none that
asks for one is. -/
def aboutOperation (f : Filter) (o : Operation) : List Directive :=
  (latest f.directives).filter fun d ↦
    d.concerns o.target && d.span = some o.name && d.field.isNone

/-- The level of operations. -/
def operationLevel : Level := .debug

/-- Whether an operation is shown with its events. -/
def showsOperation (f : Filter) (o : Operation) : Bool :=
  !(f.aboutOperation o).isEmpty || f.passes o.target none operationLevel

/-- Whether an event is shown. -/
def showsEvent (f : Filter) (e : Event) : Bool :=
  (match e.span with
    | some o => (f.aboutOperation o).any fun d ↦ d.threshold.admits e.level
    | none => false) ||
    f.passes e.target (some ("message" :: e.fields.map (·.name))) e.level

/-- An event as it is shown, if it is. -/
def select (f : Filter) (e : Event) : Option Event :=
  if f.showsEvent e then some { e with span := e.span.filter f.showsOperation }
  else none

/-! ## Reading -/

/-- The filter with the given directives; without any, only errors are shown. -/
def ofDirectives (ds : List Directive) : Filter :=
  if ds.isEmpty then ⟨[⟨none, none, none, some .error⟩]⟩ else ⟨ds⟩

/-- The parts of a filter. -/
def parts (text : String) : List String :=
  ((text.toList.splitOn ',').map String.ofList).filter (· ≠ "")

/-- The filter that a text stands for, if all of its parts are directives. -/
def ofText? (text : String) : Except Directive.BadCut (Option Filter) :=
  match (parts text).mapM Directive.ofText with
  | .ok ds => .ok (some (ofDirectives ds))
  | .error (.badCut c) => .error c
  | .error _ => .ok none

/-- What comes of reading a filter: the filter, unless something is fatal, and warnings about the
parts that are no directives, as far as they were read. -/
structure Reading where
  filter : Except Directive.BadCut Filter
  warnings : List String

/-- The warning about a part of a filter that is no directive. -/
def warning (part : String) (fault : Directive.Fault) : String :=
  "ignoring `" ++ part ++ "`: " ++ fault.message

/-- The directives among some texts, and warnings about the others. -/
def readDirectives : List String → Except Directive.BadCut (List Directive) × List String
  | [] => (.ok [], [])
  | part :: rest =>
    match Directive.ofText part with
    | .error (.badCut c) => (.error c, [])
    | .error fault =>
      let (ds, warnings) := readDirectives rest
      (ds, warning part fault :: warnings)
    | .ok d =>
      let (ds, warnings) := readDirectives rest
      (ds.map (d :: ·), warnings)

/-- Reads a filter, leaving out the parts that are no directives. -/
def read (text : String) : Reading :=
  let (ds, warnings) := readDirectives (parts text)
  ⟨ds.map ofDirectives, warnings⟩

/-- Reads the filter that the environment gives or, unless that is right, the one that the settings
give. -/
def choose (requested : Option String) (level : String) : Reading :=
  match requested.mapM ofText? with
  | .error c => ⟨.error c, []⟩
  | .ok (some (some f)) => ⟨.ok f, []⟩
  | .ok _ => read level

end Filter

end HexSigner.Log
