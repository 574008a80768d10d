import HexSigner.Der.Tag

/-!
# What is wrong with a DER document

A fault is a cause and, where one is known, the offset at which it was noticed.  Offsets are added
up on the way out: an element that announces itself to the one around it contributes how far that
one had been read, so the offset of a fault deep inside a document can exceed the document's length.
-/

set_option autoImplicit false

namespace HexSigner.Der

/-- What keeps bytes from being DER. -/
inductive Cause where
  /-- There are fewer bytes than a length announces. -/
  | incomplete (expected actual : Nat)
  /-- The length is left open. -/
  | indefiniteLength
  /-- The length is not in its shortest form, or not one that the tag allows. -/
  | badLength (tag : Tag)
  /-- The value has a shorter form, or the wrong one of the two forms of an element. -/
  | notCanonical (tag : Tag)
  /-- The value is none that the tag allows. -/
  | badValue (tag : Tag)
  /-- The bytes are no object identifier. -/
  | badObjectIdentifier
  /-- A length exceeds what lengths can be. -/
  | overflow
  /-- The tag's number takes more than one byte. -/
  | badTagNumber
  /-- The tag is not the expected one, or not one of those expected. -/
  | unexpectedTag (expected : Option Tag) (actual : Tag)
  /-- The byte is no known tag. -/
  | unknownTag (byte : UInt8)
  /-- Bytes are left after the last expected element. -/
  | trailingData (decoded remaining : Nat)
deriving DecidableEq, Repr

/-- A cause, and the offset at which it was noticed. -/
structure Fault where
  cause : Cause
  offset : Option Nat
deriving DecidableEq, Repr

/-- A byte as two hexadecimal digits. -/
def byteText (b : UInt8) : String :=
  let digits := Nat.toDigits 16 b.toNat
  String.ofList (if digits.length < 2 then '0' :: digits else digits)

/-- The wording of a cause. -/
def Cause.message : Cause → String
  | .incomplete expected actual =>
    "ASN.1 DER message is incomplete: expected " ++ toString expected ++ ", actual " ++
      toString actual
  | .indefiniteLength => "indefinite length disallowed"
  | .badLength tag => "incorrect length for " ++ tag.name
  | .notCanonical tag => "ASN.1 " ++ tag.name ++ " not canonically encoded as DER"
  | .badValue tag => "malformed ASN.1 DER value for " ++ tag.name
  | .badObjectIdentifier => "malformed OID"
  | .overflow => "integer overflow"
  | .badTagNumber => "invalid tag number"
  | .unexpectedTag none actual => "unexpected ASN.1 DER tag: got " ++ actual.name
  | .unexpectedTag (some expected) actual =>
    "unexpected ASN.1 DER tag: expected " ++ expected.name ++ ", got " ++ actual.name
  | .unknownTag byte => "unknown/unsupported ASN.1 DER tag: 0x" ++ byteText byte
  | .trailingData decoded remaining =>
    "trailing data at end of DER message: decoded " ++ toString decoded ++ " bytes, " ++
      toString remaining ++ " bytes remaining"

/-- The wording of a fault. -/
def Fault.message (f : Fault) : String :=
  match f.offset with
  | none => f.cause.message
  | some n => f.cause.message ++ " at DER byte " ++ toString n

end HexSigner.Der
