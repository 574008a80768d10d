import HexSigner.Der.Fault

/-!
# Reading DER

A decoder works on a *region*: the whole document, or the contents of an element whose length is
known.  It takes bytes from the front of the region and either succeeds with what is left or fails.

A region remembers where it began, because faults are reported relative to it (`located`), and a
failure remembers how far the reading had come.  `within` confines a decoder to the next bytes of
a region and insists that it uses all of them; that is what makes every accepted length exact.
-/

set_option autoImplicit false

namespace HexSigner.Der

/-- The largest length that an element or a document can have. -/
def maxLength : Nat := Nat.pow 2 28 - 1

/-- The unread bytes of a part of a document. -/
structure Region where
  /-- The offset in the document at which the part begins. -/
  start : Nat
  /-- The offset in the document of the next byte. -/
  offset : Nat
  /-- The unread bytes. -/
  bytes : List UInt8
deriving DecidableEq

/-- How many bytes of a region have been read. -/
def Region.position (r : Region) : Nat := r.offset - r.start

/-- A fault, and the offset in the document that the reading had reached. -/
structure Failure where
  fault : Fault
  reached : Nat
deriving DecidableEq

/-- A reader of the front of a region. -/
abbrev Decoder (α : Type) : Type := StateT Region (Except Failure) α

namespace Decoder

variable {α : Type}

/-- Fails without an offset. -/
def fail (cause : Cause) : Decoder α := fun r ↦ .error ⟨⟨cause, none⟩, r.offset⟩

/-- Fails at the offset reached in the document. -/
def failHere (cause : Cause) : Decoder α := fun r ↦ .error ⟨⟨cause, some r.offset⟩, r.offset⟩

/-- Adds to the offset of a fault how far the region had been read when it occurred. -/
def located (body : Decoder α) : Decoder α := fun r ↦
  match body r with
  | .ok result => .ok result
  | .error f =>
    .error ⟨⟨f.fault.cause, some (f.reached - r.start + f.fault.offset.getD 0)⟩, f.reached⟩

/-- Insists that the region still has `n` bytes. -/
def require (n : Nat) : Decoder Unit := fun r ↦
  if n ≤ r.bytes.length then .ok ((), r)
  else if maxLength < r.offset + n then fail .overflow r
  else failHere (.incomplete (r.offset + n) (r.offset + r.bytes.length)) r

/-- Takes the next `n` bytes. -/
def bytes (n : Nat) : Decoder (List UInt8) := do
  require n
  fun r ↦ .ok (r.bytes.take n, { r with offset := r.offset + n, bytes := r.bytes.drop n })

/-- Takes the next byte. -/
def byte : Decoder UInt8 := do
  return (← bytes 1).headD 0

/-- The next byte, which is not taken. -/
def peek? : Decoder (Option UInt8) := fun r ↦ .ok (r.bytes.head?, r)

/-- Whether all bytes have been taken. -/
def isFinished : Decoder Bool := fun r ↦ .ok (r.bytes.isEmpty, r)

/-- Confines a decoder to the next `n` bytes, all of which it has to take. -/
def within (n : Nat) (body : Decoder α) : Decoder α := do
  require n
  fun r ↦
    match body ⟨r.offset, r.offset, r.bytes.take n⟩ with
    | .error f => .error f
    | .ok (result, inner) =>
      if inner.bytes.isEmpty then
        .ok (result, { r with offset := r.offset + n, bytes := r.bytes.drop n })
      else
        .error ⟨⟨.trailingData inner.position inner.bytes.length, some inner.position⟩,
          inner.offset⟩

/-- Reads a whole document. -/
def run (body : Decoder α) (document : List UInt8) : Except Fault α :=
  match body ⟨0, 0, document⟩ with
  | .error f => .error f.fault
  | .ok (result, r) =>
    if r.bytes.isEmpty then .ok result
    else .error ⟨.trailingData r.offset r.bytes.length, some r.offset⟩

end Decoder

end HexSigner.Der
