import HexSigner.Json.Reader
import HexSigner.Text.Quoted
import HexSigner.Key.Pair

/-!
# Keys and signatures in JSON

In JSON a public key or a signature is a string, and the string is its hexadecimal text.  A string
that does not stand for a key or signature is refused with the very failure that its text would be
refused with.

A key may be read from a JSON text, or be asked for where a value was read already.  In that case
there is no text to point to, so what is wrong is reported without a place.
-/

set_option autoImplicit false

namespace HexSigner

namespace Json

/-- Why a JSON text does not hold what was asked for. -/
inductive TextFault where
  | document (fault : Fault)
  /-- The text holds a string, but the string is not what was asked for. -/
  | content (failure : Failure)
deriving DecidableEq, Repr

/-- The wording of a fault of a text. -/
def TextFault.message (text : String) : TextFault → String
  | .document f => f.message text
  | .content f => f.message

/-- What the string that a JSON text consists of stands for. -/
def decodeText {α : Type} (decode : String → Except Failure α) (text : String) :
    Except TextFault α :=
  match Reader.text.run text.toList with
  | .error f => .error (.document f)
  | .ok (s, rest) =>
    match decode s with
    | .error f => .error (.content f)
    | .ok a =>
      match readEnd rest with
      | .error f => .error (.document f)
      | .ok () => .ok a

/-- Why a JSON value is not what was asked for. -/
inductive ValueFault where
  | mismatch (mismatch : Document.Mismatch)
  /-- The value is a string, but the string is not what was asked for. -/
  | content (failure : Failure)
deriving DecidableEq, Repr

/-- The wording of a fault of a value. -/
def ValueFault.message : ValueFault → String
  | .mismatch m => m.message Binary64.compactText
  | .content f => f.message

/-- What a JSON value that is a string stands for. -/
def decodeValue {α : Type} (decode : String → Except Failure α) (value : Document.Found) :
    Except ValueFault α :=
  match value.asText with
  | .error m => .error (.mismatch m)
  | .ok s => (decode s).mapError .content

end Json

/-- The JSON text of a public key. -/
def PublicKey.toJson (k : PublicKey) : String := Json.quoted k.toText

/-- The public key in a JSON text. -/
def PublicKey.ofJson (text : String) : Except Json.TextFault PublicKey :=
  Json.decodeText PublicKey.ofText text

/-- The public key that a JSON value stands for. -/
def PublicKey.ofJsonValue (value : Document.Found) : Except Json.ValueFault PublicKey :=
  Json.decodeValue PublicKey.ofText value

/-- The JSON text of a signature. -/
def Signature.toJson (s : Signature) : String := Json.quoted s.toText

/-- The signature in a JSON text. -/
def Signature.ofJson (text : String) : Except Json.TextFault Signature :=
  Json.decodeText Signature.ofText text

/-- The signature that a JSON value stands for. -/
def Signature.ofJsonValue (value : Document.Found) : Except Json.ValueFault Signature :=
  Json.decodeValue Signature.ofText value

end HexSigner
