import HexSigner.Pattern.Atom

/-!
# Classes of characters in patterns

A class is written in brackets, as characters, ranges of characters and other classes one after the
other, which may be combined by operators.  A bracket that closes the class is an ordinary character
if nothing stands before it, and so are dashes at the front.

Of a class that can be used, only the depth to which it is nested is kept, because that is limited.
-/

set_option autoImplicit false

namespace HexSigner.Pattern

/-! ## Depths -/

/-- The depth of parts that stand side by side; a single part is as deep as it is. -/
def depthOfParts : List Nat → Nat
  | [] => 0
  | [n] => n
  | ns => 1 + ns.foldl max 0

/-- What has been read of a class. -/
structure ClassLevel where
  /-- The depth of what stands before the last operator, if there is one. -/
  operand : Option Nat := none
  /-- The depths of the parts after the last operator. -/
  parts : List Nat := []

namespace ClassLevel

/-- The depth of what has been read. -/
def depth (l : ClassLevel) : Nat :=
  match l.operand with
  | none => depthOfParts l.parts
  | some n => 1 + max n (depthOfParts l.parts)

/-- After another part. -/
def add (depth : Nat) (l : ClassLevel) : ClassLevel := { l with parts := depth :: l.parts }

/-- After an operator. -/
def operator (l : ClassLevel) : ClassLevel := { operand := some l.depth }

end ClassLevel

/-! ## Reading -/

/-- The names of the classes that may be written in brackets and colons. -/
def classNames : List String :=
  ["alnum", "alpha", "ascii", "blank", "cntrl", "digit", "graph", "lower", "print", "punct",
    "space", "upper", "word", "xdigit"]

/-- Reads a class that is given by its name, after its bracket, and whether it is negated. -/
def readNamedClass? : List Char → Option (Bool × List Char)
  | ':' :: cs =>
    let (negated, cs) := match cs with
      | '^' :: cs => (true, cs)
      | cs => (false, cs)
    match cs.span (· ≠ ':') with
    | (name, ':' :: ']' :: rest) =>
      if classNames.contains (String.ofList name) then some (negated, rest) else none
    | _ => none
  | _ => none

/-- Whether a named class can be used. -/
def isNamedClassUsable (f : Flags) (negated : Bool) : Bool :=
  if f.unicode then !f.ignoreCase else !negated

/-- Adds an ordinary character to a class, which something has to follow. -/
def addCharacter (f : Flags) (c : Char) (l : ClassLevel) (rest : List Char) :
    Option (ClassLevel × List Char) :=
  let rest := f.skip rest
  if rest ≠ [] ∧ (Atom.character c false).isUsableInClass f then some (l.add 0, rest) else none

/-- Reads the dashes at the front of a class, at most `fuel` of them. -/
def readDashes (f : Flags) : Nat → ClassLevel → List Char → Option (ClassLevel × List Char)
  | fuel + 1, l, '-' :: rest =>
    match addCharacter f '-' l rest with
    | some (l, rest) => readDashes f fuel l rest
    | none => none
  | _, l, cs => some (l, cs)

/-- Reads the front of a class, after its bracket. -/
def readClassFront (f : Flags) (cs : List Char) : Option (ClassLevel × List Char) :=
  let cs := f.skip cs
  let (negated, cs) := match cs with
    | '^' :: cs => (true, f.skip cs)
    | cs => (false, cs)
  if cs = [] ∨ negated ∧ ¬ f.unicode then none
  else
    match readDashes f cs.length {} cs with
    | some (l, ']' :: rest) =>
      if l.parts = [] then addCharacter f ']' l rest else some (l, ']' :: rest)
    | other => other

/-- Reads a character, a range of characters or an escape in a class. -/
def readRange (f : Flags) (cs : List Char) : Option (List Char) :=
  match readAtom f cs with
  | none => none
  | some (a, rest) =>
    if !a.isUsableInClass f then none
    else
      match f.skip rest with
      | [] => none
      | '-' :: rest =>
        if f.glance? rest = some ']' ∨ f.glance? rest = some '-' then some ('-' :: rest)
        else
          match a, readAtom f (f.skip rest) with
          | .character c _, some (.character d isByte, rest) =>
            if c ≤ d ∧ (Atom.character d isByte).isUsableInClass f then some rest else none
          | _, _ => none
      | rest => some rest

/-- Reads the rest of a class and gives its depth.  `outer` are the classes around the one at hand;
every step takes at least one character, so `fuel` need not exceed their number. -/
def readClassRest (f : Flags) : Nat → List ClassLevel → ClassLevel → List Char →
    Option (Nat × List Char)
  | 0, _, _, _ => none
  | fuel + 1, outer, l, cs =>
    match f.skip cs with
    | '[' :: rest =>
      match readNamedClass? rest with
      | some (negated, rest) =>
        if isNamedClassUsable f negated then readClassRest f fuel outer (l.add 0) rest else none
      | none =>
        match readClassFront f rest with
        | some (inner, rest) => readClassRest f fuel (l :: outer) inner rest
        | none => none
    | ']' :: rest =>
      match outer with
      | [] => some (1 + l.depth, rest)
      | parent :: outer => readClassRest f fuel outer (parent.add (1 + l.depth)) rest
    | '&' :: '&' :: rest => readClassRest f fuel outer l.operator rest
    | '-' :: '-' :: rest => readClassRest f fuel outer l.operator rest
    | '~' :: '~' :: rest => readClassRest f fuel outer l.operator rest
    | cs =>
      match readRange f cs with
      | some rest => readClassRest f fuel outer (l.add 0) rest
      | none => none

/-- Reads a class, after its bracket, and gives its depth. -/
def readClass (f : Flags) (cs : List Char) : Option (Nat × List Char) :=
  match readClassFront f cs with
  | some (l, rest) => readClassRest f (rest.length + 1) [] l rest
  | none => none

end HexSigner.Pattern
