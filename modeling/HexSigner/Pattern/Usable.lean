import HexSigner.Pattern.CharacterClass

/-!
# Which patterns can be used

The value in a directive may be a pattern, a regular expression.  Values are never compared with
one, because no operation has fields; but a directive whose pattern cannot be used is refused, so
what is decided here is whether a pattern can be used.

A pattern comes out of a directive, where a closing brace ends it.  So whatever would need such a
brace is never complete, and an opening brace is always wrong unless it is in a class.
-/

set_option autoImplicit false

namespace HexSigner.Pattern

/-- Why a pattern cannot be used. -/
inductive Fault where
  /-- The text is no pattern, or not one that can be built. -/
  | malformed
  /-- The pattern asks where words of any script end. -/
  | wordBoundary
deriving DecidableEq, Repr

/-- The wording of a fault. -/
def Fault.message : Fault → String
  | .malformed => "error building NFA"
  | .wordBoundary =>
    "unsupported regex feature for DFAs: cannot build DFAs for regexes with Unicode word " ++
      "boundaries; switch to ASCII word boundaries, or heuristically enable Unicode word " ++
      "boundaries or use a different regex engine"

/-! ## Levels -/

/-- A part of a pattern. -/
structure Item where
  depth : Nat
  /-- Whether it can be repeated. -/
  repeatable : Bool

/-- What has been read of a pattern or of one of its groups. -/
structure Level where
  /-- The flags that hold for what follows. -/
  flags : Flags
  /-- The parts since the last bar, the latest first. -/
  items : List Item := []
  /-- The depths of the branches before the last bar. -/
  branches : List Nat := []

namespace Level

/-- The depth of the branch at hand. -/
def branchDepth (l : Level) : Nat := depthOfParts (l.items.map (·.depth))

/-- The depth of what has been read. -/
def depth (l : Level) : Nat :=
  if l.branches = [] then l.branchDepth else depthOfParts (l.branchDepth :: l.branches)

/-- After another part. -/
def add (depth : Nat) (l : Level) : Level := { l with items := ⟨depth, true⟩ :: l.items }

/-- After a bar. -/
def bar (l : Level) : Level := { l with items := [], branches := l.branchDepth :: l.branches }

/-- After a change of the flags, which counts as a part that cannot be repeated. -/
def setFlags (flags : Flags) (l : Level) : Level :=
  { l with flags, items := ⟨0, false⟩ :: l.items }

/-- After a repetition of the last part, if there is one that can be repeated. -/
def repeatLast? (l : Level) : Option Level :=
  match l.items with
  | ⟨depth, true⟩ :: items => some { l with items := ⟨depth + 1, true⟩ :: items }
  | _ => none

end Level

/-! ## Reading -/

/-- How far the reading of a pattern has come. -/
structure State where
  level : Level
  /-- The levels around the one at hand, the innermost first. -/
  outer : List Level := []
  /-- The names of groups. -/
  names : List (List Char) := []
  /-- Whether the pattern asks where words of any script end. -/
  asksForWords : Bool := false

namespace State

/-- At the front of a group with the given flags. -/
def enter (flags : Flags) (s : State) : State :=
  { s with level := { flags }, outer := s.level :: s.outer }

/-- At the end of a group, if there is one. -/
def leave? (s : State) : Option State :=
  match s.outer with
  | [] => none
  | parent :: outer => some { s with level := parent.add (1 + s.level.depth), outer }

end State

/-- Whether a text may be the name of a group. -/
def isName : List Char → Bool
  | [] => false
  | c :: cs =>
    (c = '_' || Text.isAlphabetic c) &&
      cs.all fun c ↦ ['_', '.', '[', ']'].contains c || Text.isAlphanumeric c

/-- Reads the name of a group. -/
def readName (s : State) (cs : List Char) : Option (State × List Char) :=
  match cs.span (· ≠ '>') with
  | (name, '>' :: rest) =>
    if isName name ∧ name ∉ s.names then
      some ({ s with names := name :: s.names }.enter s.level.flags, rest)
    else none
  | _ => none

/-- Reads the flags of a group or of the rest of the level. -/
def readFlags (s : State) (cs : List Char) : Option (State × List Char) :=
  let (text, rest) := cs.span fun c ↦ c ≠ ':' ∧ c ≠ ')'
  let flags := s.level.flags.change text
  if !Flags.isChange text then none
  else
    match rest with
    | ':' :: rest => some (s.enter flags, rest)
    | ')' :: rest =>
      if text = [] then none else some ({ s with level := s.level.setFlags flags }, rest)
    | _ => none

/-- Reads the front of a group, after its parenthesis.  Looking ahead or behind is not possible. -/
def readGroup (s : State) (cs : List Char) : Option (State × List Char) :=
  match s.level.flags.skip cs with
  | '?' :: 'P' :: '<' :: rest => readName s rest
  | '?' :: '<' :: rest => readName s rest
  | '?' :: rest => readFlags s rest
  | rest => some (s.enter s.level.flags, rest)

/-- Reads what follows after a sign of repetition, which may be a mark for as few as possible. -/
def readLazyMark : List Char → List Char
  | '?' :: rest => rest
  | rest => rest

/-- Reads an atom. -/
def readSingle (s : State) (cs : List Char) : Option (State × List Char) :=
  let flags := s.level.flags
  match readAtom flags cs with
  | none => none
  | some (a, rest) =>
    if a.isUsable flags then
      some ({ s with
        level := s.level.add 0
        asksForWords := s.asksForWords || (a = .wordBoundary && flags.unicode) }, rest)
    else none

/-- Reads the next part of a pattern. -/
def readPart (s : State) (cs : List Char) : Option (State × List Char) :=
  let add (depth : Nat) (rest : List Char) : State × List Char :=
    ({ s with level := s.level.add depth }, rest)
  match cs with
  | '(' :: rest => readGroup s rest
  | ')' :: rest => s.leave?.map (·, rest)
  | '|' :: rest => some ({ s with level := s.level.bar }, rest)
  | '[' :: rest => (readClass s.level.flags rest).map fun (depth, rest) ↦ add depth rest
  | '\x7b' :: _ => none
  | '.' :: rest => if s.level.flags.unicode then some (add 0 rest) else none
  | '^' :: rest => some (add 0 rest)
  | '$' :: rest => some (add 0 rest)
  | c :: rest =>
    if ['?', '*', '+'].contains c then
      s.level.repeatLast?.map fun level ↦ ({ s with level }, readLazyMark rest)
    else readSingle s (c :: rest)
  | [] => none

/-- Reads the rest of a pattern.  Every step takes at least one character, so `fuel` need not exceed
their number. -/
def readRest : Nat → State → List Char → Option State
  | 0, _, _ => none
  | fuel + 1, s, cs =>
    match s.level.flags.skip cs with
    | [] => some s
    | cs =>
      match readPart s cs with
      | some (s, rest) => readRest fuel s rest
      | none => none

/-- How deep a pattern may be nested. -/
def maxDepth : Nat := 250

/-- Whether a text is a pattern that can be used. -/
def check (cs : List Char) : Except Fault Unit :=
  match readRest (cs.length + 1) { level := { flags := {} } } cs with
  | none => .error .malformed
  | some s =>
    if s.outer ≠ [] ∨ maxDepth < s.level.depth then .error .malformed
    else if s.asksForWords then .error .wordBoundary
    else .ok ()

end HexSigner.Pattern
