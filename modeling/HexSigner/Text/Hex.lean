import HexSigner.Text.Basic
import HexSigner.Text.Quoted

/-!
# Hexadecimal text

Keys, digests and signatures all travel as hexadecimal text.  Writing always produces lower case;
reading accepts either case.

A text that is not hexadecimal has at most two things wrong with it, and `decode` names exactly one:
an odd number of bytes comes first, whatever else is wrong, and otherwise it is the first byte that
is no digit.  Both are counted in bytes of the UTF-8 form, so a character outside ASCII is reported
through its first byte.
-/

set_option autoImplicit false

namespace HexSigner.Hex

/-- What keeps a text from being hexadecimal. -/
inductive Fault where
  /-- The text has an odd number of bytes. -/
  | oddLength (length : Nat)
  /-- The byte at `index` is no hexadecimal digit. -/
  | badDigit (byte : UInt8) (index : Nat)
deriving DecidableEq, Repr

/-- The wording of a fault.  The offending byte is shown as the character with its code point. -/
def Fault.reason : Fault → String
  | .oddLength n => "odd length (" ++ toString n ++ ")"
  | .badDigit b i =>
    "invalid hex character " ++ Text.quotedChar (Char.ofNat b.toNat) ++ " at index " ++ toString i

/-- A fault as the codec itself reports it. -/
def Fault.message (f : Fault) : String := "Invalid input format: " ++ f.reason

/-! ## Writing -/

/-- The lower-case digit of a number below sixteen. -/
def digit (n : Nat) : Char := if n < 10 then Char.ofNat (48 + n) else Char.ofNat (87 + n)

/-- The two digits of a byte, the high half first. -/
def byteDigits (b : UInt8) : List Char := [digit (b.toNat / 16), digit (b.toNat % 16)]

/-- The lower-case hexadecimal text of a list of bytes. -/
def encode (bytes : List UInt8) : String := String.ofList (bytes.flatMap byteDigits)

/-! ## Reading -/

/-- The value of a hexadecimal digit of either case. -/
def digit? (b : UInt8) : Option Nat :=
  let n := b.toNat
  if 48 ≤ n ∧ n ≤ 57 then some (n - 48)
  else if 97 ≤ n ∧ n ≤ 102 then some (n - 87)
  else if 65 ≤ n ∧ n ≤ 70 then some (n - 55)
  else none

/-- Reads digits two by two; `index` counts the bytes already read. -/
def decodePairs (index : Nat) : List UInt8 → Except Fault (List UInt8)
  | [] => .ok []
  | [b] => .error (.badDigit b index)
  | hi :: lo :: rest =>
    match digit? hi, digit? lo with
    | none, _ => .error (.badDigit hi index)
    | some _, none => .error (.badDigit lo (index + 1))
    | some h, some l => (decodePairs (index + 2) rest).map (UInt8.ofNat (16 * h + l) :: ·)

/-- The bytes that a list of digits stands for. -/
def decodeBytes (digits : List UInt8) : Except Fault (List UInt8) :=
  if digits.length % 2 = 1 then .error (.oddLength digits.length) else decodePairs 0 digits

/-- The bytes that a hexadecimal text stands for. -/
def decode (text : String) : Except Fault (List UInt8) := decodeBytes (Text.utf8 text)

/-- Whether a text is hexadecimal: an even number of bytes, each of them a digit. -/
def isHex (text : String) : Bool :=
  let bytes := Text.utf8 text
  bytes.length % 2 == 0 && bytes.all fun b ↦ (digit? b).isSome

end HexSigner.Hex
