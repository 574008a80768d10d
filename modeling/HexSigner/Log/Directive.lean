import HexSigner.Log.Event
import HexSigner.Number.Literal
import HexSigner.Pattern.Usable
import HexSigner.Text.Cut
import HexSigner.Text.Word

/-!
# Directives

A directive says how important events of a certain origin have to be in order to be shown.  In full
it reads `target[operation{field}]=level`, and every part may be left out: `info` is about all
events, `signer=debug` about those whose target starts with `signer`, `[verify]=trace` about those
that occur in an operation.  A directive without a level lets everything pass.

White space at both ends of a directive is not looked at when its parts are told apart.  The parts
are still cut out of the whole text, by their places, so white space in front moves all of them.  A
place that gets into the middle of a character by that is fatal: the directive is neither right nor
wrong, and nothing that depends on it can go on.
-/

set_option autoImplicit false

namespace HexSigner.Log

/-! ## Thresholds -/

/-- The least important level that is shown, if any is. -/
abbrev Threshold : Type := Option Level

namespace Threshold

/-- The place of a threshold: 0 if nothing is shown. -/
def rank (t : Threshold) : Nat := (t.map Level.rank).getD 0

/-- Whether a level is important enough. -/
def admits (t : Threshold) (l : Level) : Bool := l.rank ≤ t.rank

/-- The thresholds and their names, in the order of their numbers. -/
def named : List (String × Threshold) :=
  [("off", none), ("error", some .error), ("warn", some .warn), ("info", some .info),
    ("debug", some .debug), ("trace", some .trace)]

/-- The number that a text stands for: decimal digits, which may follow a plus. -/
def number? (cs : List Char) : Option Nat :=
  let digits := match cs with
    | '+' :: rest => rest
    | rest => rest
  if digits ≠ [] ∧ digits.all Char.isDigit then
    some (digits.foldl (fun n c ↦ 10 * n + (c.toNat - 48)) 0)
  else none

/-- The threshold that a text stands for: its number, or its name in any letter case. -/
def ofText? (cs : List Char) : Option Threshold :=
  match (number? cs).bind fun n ↦ named[n]? with
  | some (_, t) => some t
  | none =>
    if cs = [] then some (some .error)
    else named.lookup (String.ofList (cs.map Char.toLower))

end Threshold

/-! ## Directives -/

/-- A rule about the events of a certain origin. -/
structure Directive where
  /-- How the target of an event starts. -/
  target : Option String
  /-- The operation that an event occurs in. -/
  span : Option String
  /-- A field, and the value that it has. -/
  field : Option (String × Option String)
  threshold : Threshold
deriving DecidableEq, Repr

/-- The parts that a directive is cut into, apart where they end with different characters. -/
inductive Directive.Part where
  /-- A target up to an equals sign. -/
  | target
  /-- A target up to an opening bracket. -/
  | targetOfOperation
  /-- An operation up to a closing bracket. -/
  | operation
  /-- An operation up to an opening brace. -/
  | operationOfField
  | field
  | level
deriving DecidableEq, Repr

/-- A part that cannot be cut out. -/
structure Directive.BadCut where
  part : Directive.Part
  straddle : Text.Straddle
deriving DecidableEq, Repr

/-- Why a text is no directive. -/
inductive Directive.Fault where
  | malformed
  | badLevel
  /-- The value of a field is a pattern that cannot be used. -/
  | badValue (fault : Pattern.Fault)
  /-- A part cannot be cut out, which is fatal. -/
  | badCut (cut : Directive.BadCut)
deriving DecidableEq, Repr

/-- The wording of a fault. -/
def Directive.Fault.message : Directive.Fault → String
  | .malformed => "invalid filter directive"
  | .badLevel =>
    "error parsing level filter: expected one of \"off\", \"error\", \"warn\", \"info\", " ++
      "\"debug\", \"trace\", or a number 0-5"
  | .badValue f => "invalid field filter: " ++ f.message
  | .badCut c => c.straddle.message

namespace Directive

/-! ## Sources -/

/-- A text without the white space at its ends. -/
def trim (cs : List Char) : List Char :=
  ((cs.dropWhile Text.isWhiteSpace).reverse.dropWhile Text.isWhiteSpace).reverse

/-- A text that a directive is read from. -/
structure Source where
  /-- What parts are cut out of. -/
  whole : List Char
  /-- What parts are told apart in. -/
  seen : List Char

/-- A text as a source. -/
def Source.ofText (text : String) : Source := ⟨text.toList, trim text.toList⟩

/-- The place where `left` is left of what is seen. -/
def Source.place (s : Source) (left : List Char) : Nat :=
  Text.byteLength s.seen - Text.byteLength left

/-- What stands between two places, as a part of a directive. -/
def Source.cut (s : Source) (p : Part) (start stop : Nat) : Except Fault (List Char) :=
  (Text.cut start stop s.whole).mapError fun straddle ↦ .badCut ⟨p, straddle⟩

/-- The part from where `start` is left to where `stop` is left. -/
def Source.part (s : Source) (p : Part) (start stop : List Char) : Except Fault (List Char) :=
  s.cut p (s.place start) (s.place stop)

/-- Everything from where `start` is left. -/
def Source.partFrom (s : Source) (p : Part) (start : List Char) : Except Fault (List Char) :=
  s.cut p (s.place start) (Text.byteLength s.whole)

/-! ## Reading -/

/-- Reads the level at the end of a directive; without one, everything passes. -/
def readLevel (d : Directive) (s : Source) (left : List Char) :
    Except Fault Directive := do
  let text ← s.partFrom .level left
  if text = [] then return { d with threshold := some .trace }
  else
    match Threshold.ofText? text with
    | some t => return { d with threshold := t }
    | none => .error .badLevel

/-- Reads what follows after the closing bracket. -/
def readAfterSpan (d : Directive) (s : Source) : List Char → Except Fault Directive
  | [] => .ok d
  | '=' :: left => d.readLevel s left
  | _ => .error .malformed

/-- A field of a directive, with the value after its first equals sign, up to the next one.  The
value is a number or a pattern. -/
def fieldOf (text : List Char) : Except Fault (String × Option String) :=
  match text.splitOn '=' with
  | name :: value :: _ =>
    let field := (String.ofList name, some (String.ofList value))
    if Number.isLiteral value then .ok field
    else (Pattern.check value).mapError .badValue |>.map fun () ↦ field
  | parts => .ok (String.ofList parts.flatten, none)

/-- Reads a field, in braces, and what follows after it. -/
def readField (d : Directive) (s : Source) (left : List Char) : Except Fault Directive :=
  match left.dropWhile (· ≠ '\x7d') with
  | [] => .error .malformed
  | stop@(_ :: left') => do
    let text ← s.part .field left stop
    if text = [] then .error .malformed
    else
      let field ← fieldOf text
      match left' with
      | ']' :: left =>
        let d := { d with field := some field }
        d.readAfterSpan s left
      | _ => .error .malformed

/-- Reads what follows after the opening bracket. -/
def readSpan (d : Directive) (s : Source) (left : List Char) : Except Fault Directive :=
  match left.dropWhile fun c ↦ c ≠ ']' ∧ c ≠ '\x7b' with
  | [] => .error .malformed
  | stop@(c :: left') => do
    let name ← s.part (if c = ']' then .operation else .operationOfField) left stop
    if c = ']' then
      let d := { d with span := some (String.ofList name) }
      d.readAfterSpan s left'
    else
      let d := { d with span := if name = [] then none else some (String.ofList name) }
      d.readField s left'

/-- Whether a directive may start with a character, other than with a bracket. -/
def isInitial (c : Char) : Bool := c = '-' || c = ':' || c = '_' || Text.isAlphanumeric c

/-- The directive about everything. -/
def everything : Directive := ⟨none, none, none, some .trace⟩

/-- The directive that is only a level or only a target. -/
def ofWord (text : List Char) : Directive :=
  match Threshold.ofText? text with
  | some t => { everything with threshold := t }
  | none => { everything with target := some (String.ofList text) }

/-- The directive that a source stands for. -/
def ofSource (s : Source) : Except Fault Directive :=
  match s.seen with
  | [] => .error .malformed
  | '[' :: left => everything.readSpan s left
  | c :: _ =>
    if !isInitial c then .error .malformed
    else
      match s.seen.dropWhile fun c ↦ c ≠ '=' ∧ c ≠ '[' with
      | [] => .ok (ofWord s.whole)
      | stop@(c :: left) => do
        let target ← s.part (if c = '=' then .target else .targetOfOperation) s.seen stop
        let d := { everything with target := some (String.ofList target) }
        if c = '=' then d.readLevel s left else d.readSpan s left

/-- The directive that a text stands for. -/
def ofText (text : String) : Except Fault Directive := ofSource (.ofText text)

end Directive

end HexSigner.Log
