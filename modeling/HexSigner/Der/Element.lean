import HexSigner.Der.Decoder
import HexSigner.Octets

/-!
# DER elements

An element is a tag, a length and as many bytes of contents.  This file reads headers and the few
kinds of contents that key documents are made of.  Every form has to be the shortest one, so that a
value has a single encoding.

An element is written as its tag, the shortest form of the length of its contents, and the contents.
The one thing that can go wrong is a length beyond what lengths can be, of the contents or of the
whole element.
-/

set_option autoImplicit false

namespace HexSigner.Der

open Decoder

/-! ## Headers -/

/-- A tag and the length of the contents that follow. -/
structure Header where
  tag : Tag
  length : Nat
deriving DecidableEq, Repr

/-- The tag that a byte stands for. -/
def tagOfByte (b : UInt8) : Decoder Tag :=
  match Tag.ofByte b with
  | .ok tag => pure tag
  | .error .longNumber => fail .badTagNumber
  | .error (.unknown b) => fail (.unknownTag b)

/-- The first byte of the shortest form of a length of 128 or more. -/
def lengthMark (n : Nat) : Nat :=
  if n < 0x100 then 0x81 else if n < 0x10000 then 0x82 else if n < 0x1000000 then 0x83 else 0x84

/-- The number that a list of bytes stands for, the most significant byte first. -/
def bigEndian (bytes : List UInt8) : Nat := bytes.foldl (fun n b ↦ 256 * n + b.toNat) 0

/-- A list of single bytes, each taken on its own. -/
def eachByte : Nat → Decoder (List UInt8)
  | 0 => pure []
  | n + 1 => do
    let b ← byte
    let rest ← eachByte n
    return b :: rest

/-- The length of an element with the given tag. -/
def length (tag : Tag) : Decoder Nat := do
  let first := (← byte).toNat
  if first < 0x80 then
    return first
  else if first = 0x80 then
    fail .indefiniteLength
  else if first ≤ 0x84 then
    let n := bigEndian (← eachByte (first - 0x80))
    if maxLength < n then fail .overflow
    else if 0x80 ≤ n ∧ lengthMark n = first then return n
    else fail (.badLength tag)
  else
    fail (.badLength tag)

/-- The header of an element. -/
def header : Decoder Header := do
  let tag ← tagOfByte (← byte)
  return ⟨tag, ← length tag⟩

/-- The header of an element with an expected tag; the length of its contents. -/
def headerOf (expected : Tag) : Decoder Nat := do
  let h ← header
  if h.tag = expected then return h.length else fail (.unexpectedTag (some expected) h.tag)

/-! ## Contents -/

/-- An element of any kind. -/
def any : Decoder (Tag × List UInt8) := do
  let h ← header
  return (h.tag, ← bytes h.length)

/-- The elements of a sequence. -/
def sequence {α : Type} (body : Decoder α) : Decoder α := do
  within (← headerOf .sequence) body

/-- The contents of a bit string that is a whole number of bytes, and `none` for any other. -/
def bitStringContents (length : Nat) : Decoder (Option (List UInt8)) := do
  if length = 0 then
    fail .overflow
  else
    let unused ← byte
    let contents ← bytes (length - 1)
    if 7 < unused ∨ (unused ≠ 0 ∧ contents.isEmpty) then fail (.badValue .bitString)
    else return if unused = 0 then some contents else none

/-- A bit string. -/
def bitString : Decoder (Option (List UInt8)) := do
  bitStringContents (← headerOf .bitString)

/-- An octet string. -/
def octetString : Decoder (List UInt8) := do
  bytes (← headerOf .octetString)

/-- A number below 256. -/
def smallInteger : Decoder Nat := do
  let length ← headerOf .integer
  if 2 < length then
    fail (.notCanonical .integer)
  else
    match ← bytes length with
    | [] => fail (.notCanonical .integer)
    | [b] => if b < 0x80 then return b.toNat else fail (.badValue .integer)
    | 0 :: b :: _ => if b < 0x80 then fail (.notCanonical .integer) else return b.toNat
    | b :: _ => if b < 0x80 then fail (.badLength .integer) else fail (.badValue .integer)

/-! ## Object identifiers -/

/-- The longest object identifier, in bytes. -/
def maxIdentifierLength : Nat := 39

/-- Whether bytes are a sequence of arcs: each arc takes at most five bytes, all but its last byte
have the highest bit set, and a fifth byte is below sixteen.  `taken` counts the bytes already taken
of the arc at hand. -/
def areArcs (taken : Nat) : List UInt8 → Bool
  | [] => taken == 0
  | b :: rest =>
    if 4 ≤ taken ∧ 0x10 ≤ b then false
    else areArcs (if b < 0x80 then 0 else taken + 1) rest

/-- Whether bytes are an object identifier of at least three arcs.  The first byte stands for two
arcs, the first of which is at most 2 and the second at most 39. -/
def isIdentifier : List UInt8 → Bool
  | first :: rest => 2 ≤ rest.length && first < 120 && areArcs 0 rest
  | [] => false

/-- The bytes of an object identifier. -/
def objectIdentifier : Decoder (List UInt8) := do
  let length ← headerOf .objectIdentifier
  if maxIdentifierLength < length then
    fail (.badLength .objectIdentifier)
  else
    let contents ← bytes length
    if isIdentifier contents then return contents else fail .badObjectIdentifier

/-! ## Tagged fields -/

/-- Skips context-specific fields with a number below `number`, and answers whether the next element
is the one with that number.  At most `fuel` fields are skipped. -/
def skipToField (number : Nat) : Nat → Decoder Bool
  | 0 => pure false
  | fuel + 1 => do
    match ← peek? with
    | none => pure false
    | some b =>
      match ← tagOfByte b with
      | .contextSpecific _ n =>
        if n < number then
          let _ ← any
          skipToField number fuel
        else
          pure (n == number)
      | _ => pure false

/-- The bit string in the context-specific field with the given number, if the field is there.  The
field's tag stands in place of the bit string's own, so it has to be primitive. -/
def bitStringField (number : Nat) : Decoder (Option (Option (List UInt8))) := do
  let fuel ← fun r ↦ .ok (r.bytes.length, r)
  if ← skipToField number fuel then
    let h ← header
    let contents ← bitStringContents h.length
    if h.tag.isConstructed then fail (.notCanonical h.tag) else return some contents
  else
    return none

/-- A context-specific field that holds one element of any kind. -/
def field : Decoder Unit := do
  let h ← header
  match h.tag with
  | .contextSpecific true _ =>
    let _ ← within h.length any
    return ()
  | tag => fail (.unexpectedTag none tag)

/-- Context-specific fields up to the end of the region, at most `fuel` of them. -/
def fields : Nat → Decoder Unit
  | 0 => pure ()
  | fuel + 1 => do
    if ← isFinished then
      return ()
    else
      located field
      fields fuel

/-! ## Writing -/

/-- The shortest form of a length. -/
def encodeLength (n : Nat) : Except Cause (List UInt8) :=
  if maxLength < n then .error .overflow
  else if n < 0x80 then .ok [UInt8.ofNat n]
  else .ok (UInt8.ofNat (lengthMark n) :: (littleEndianBytes (lengthMark n - 0x80) n).reverse)

/-- An element with the given tag and contents. -/
def encodeElement (tag : Tag) (contents : List UInt8) : Except Cause (List UInt8) := do
  let length ← encodeLength contents.length
  let bytes := tag.toByte :: length ++ contents
  if maxLength < bytes.length then .error .overflow else return bytes

end HexSigner.Der
