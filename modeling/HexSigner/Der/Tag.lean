/-!
# DER tags

The first byte of a DER element says what kind of value it is.  Only tags of one byte are known
here: a number of 31 in the low five bits announces a longer tag and is refused, and so are the
universal tags that no key document uses.  A tag is written as the one byte that is read as it.
-/

set_option autoImplicit false

namespace HexSigner.Der

/-- The kind of a DER element. -/
inductive Tag where
  | boolean
  | integer
  | bitString
  | octetString
  | null
  | objectIdentifier
  | real
  | enumerated
  | utf8String
  | sequence
  | set
  | numericString
  | printableString
  | teletexString
  | videotexString
  | ia5String
  | utcTime
  | generalizedTime
  | visibleString
  | bmpString
  | application (constructed : Bool) (number : Nat)
  | contextSpecific (constructed : Bool) (number : Nat)
  | privateUse (constructed : Bool) (number : Nat)
deriving DecidableEq, Repr

/-- Why a byte is no tag. -/
inductive TagFault where
  /-- The number does not fit into the byte. -/
  | longNumber
  /-- The byte is none of the known tags. -/
  | unknown (byte : UInt8)
deriving DecidableEq, Repr

namespace Tag

/-- The tag that a byte stands for. -/
def ofByte (byte : UInt8) : Except TagFault Tag :=
  let n := byte.toNat
  let number := n % 32
  let constructed := n / 32 % 2 == 1
  if number = 31 then .error .longNumber
  else if 0x40 ≤ n ∧ n < 0x80 then .ok (.application constructed number)
  else if 0x80 ≤ n ∧ n < 0xc0 then .ok (.contextSpecific constructed number)
  else if 0xc0 ≤ n then .ok (.privateUse constructed number)
  else
    match n with
    | 0x01 => .ok .boolean
    | 0x02 => .ok .integer
    | 0x03 => .ok .bitString
    | 0x04 => .ok .octetString
    | 0x05 => .ok .null
    | 0x06 => .ok .objectIdentifier
    | 0x09 => .ok .real
    | 0x0a => .ok .enumerated
    | 0x0c => .ok .utf8String
    | 0x12 => .ok .numericString
    | 0x13 => .ok .printableString
    | 0x14 => .ok .teletexString
    | 0x15 => .ok .videotexString
    | 0x16 => .ok .ia5String
    | 0x17 => .ok .utcTime
    | 0x18 => .ok .generalizedTime
    | 0x1a => .ok .visibleString
    | 0x1e => .ok .bmpString
    | 0x30 => .ok .sequence
    | 0x31 => .ok .set
    | _ => .error (.unknown byte)

/-- The byte of a numbered tag of the family that starts at `family`. -/
def numberedByte (family : Nat) (constructed : Bool) (number : Nat) : UInt8 :=
  UInt8.ofNat (family + (if constructed then 32 else 0) + number)

/-- The byte that stands for a tag. -/
def toByte : Tag → UInt8
  | .boolean => 0x01
  | .integer => 0x02
  | .bitString => 0x03
  | .octetString => 0x04
  | .null => 0x05
  | .objectIdentifier => 0x06
  | .real => 0x09
  | .enumerated => 0x0a
  | .utf8String => 0x0c
  | .numericString => 0x12
  | .printableString => 0x13
  | .teletexString => 0x14
  | .videotexString => 0x15
  | .ia5String => 0x16
  | .utcTime => 0x17
  | .generalizedTime => 0x18
  | .visibleString => 0x1a
  | .bmpString => 0x1e
  | .sequence => 0x30
  | .set => 0x31
  | .application c n => numberedByte 0x40 c n
  | .contextSpecific c n => numberedByte 0x80 c n
  | .privateUse c n => numberedByte 0xc0 c n

/-- Whether an element with this tag is made of elements. -/
def isConstructed : Tag → Bool
  | .sequence | .set => true
  | .application c _ | .contextSpecific c _ | .privateUse c _ => c
  | _ => false

/-- The name of a numbered tag. -/
def numberedName (family : String) (constructed : Bool) (number : Nat) : String :=
  family ++ " [" ++ toString number ++ "] (" ++
    (if constructed then "constructed" else "primitive") ++ ")"

/-- The name of a tag in messages. -/
def name : Tag → String
  | .boolean => "BOOLEAN"
  | .integer => "INTEGER"
  | .bitString => "BIT STRING"
  | .octetString => "OCTET STRING"
  | .null => "NULL"
  | .objectIdentifier => "OBJECT IDENTIFIER"
  | .real => "REAL"
  | .enumerated => "ENUMERATED"
  | .utf8String => "UTF8String"
  | .sequence => "SEQUENCE"
  | .set => "SET"
  | .numericString => "NumericString"
  | .printableString => "PrintableString"
  | .teletexString => "TeletexString"
  | .videotexString => "VideotexString"
  | .ia5String => "IA5String"
  | .utcTime => "UTCTime"
  | .generalizedTime => "GeneralizedTime"
  | .visibleString => "VisibleString"
  | .bmpString => "BMPString"
  | .application c n => numberedName "APPLICATION" c n
  | .contextSpecific c n => numberedName "CONTEXT-SPECIFIC" c n
  | .privateUse c n => numberedName "PRIVATE" c n

end Tag

end HexSigner.Der
