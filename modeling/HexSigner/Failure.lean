import HexSigner.Key.PrivateDocument
import HexSigner.Key.PublicDocument
import HexSigner.Text.Hex

/-!
# Why an operation of the signer fails

Failures fall into three kinds, by what is at fault: the source of randomness, a key, or any other
input.  Within a kind the cause is kept as data and put into words once, by `Failure.message`.

A source of randomness reports in its own words, and may report a failure of any kind, so each kind
also has a cause that is only a text.
-/

set_option autoImplicit false

namespace HexSigner

/-- What is wrong with a key. -/
inductive KeyFault where
  /-- A private key is no hexadecimal text.  What exactly is wrong with it is not kept: it could
  reveal a part of the key. -/
  | privateNotHex
  | privateDocument (fault : Key.PrivateDocument.Fault)
  | publicNotHex (fault : Hex.Fault)
  | publicDocument (fault : Key.PublicDocument.Fault)
  | reported (reason : String)
deriving DecidableEq, Repr

/-- What is wrong with an input that is no key. -/
inductive InputFault where
  | notHex (fault : Hex.Fault)
  | signatureLength (actual : Nat)
  | reported (reason : String)
deriving DecidableEq, Repr

/-- Why an operation fails. -/
inductive Failure where
  | keyGeneration (reason : String)
  | invalidKey (fault : KeyFault)
  | invalidInput (fault : InputFault)
deriving DecidableEq, Repr

/-- The wording of what is wrong with a key. -/
def KeyFault.reason : KeyFault → String
  | .privateNotHex => "private key is not valid hex"
  | .privateDocument f => "not a PKCS#8 Ed25519 private key: " ++ f.message
  | .publicNotHex f => "public key is not valid hex: " ++ f.message
  | .publicDocument f => "not an X.509 Ed25519 public key: " ++ f.message
  | .reported r => r

/-- The wording of what is wrong with another input. -/
def InputFault.reason : InputFault → String
  | .notHex f => f.reason
  | .signatureLength n => "signature must be 64 bytes, got " ++ toString n
  | .reported r => r

/-- The wording of a failure. -/
def Failure.message : Failure → String
  | .keyGeneration r => "Key generation failed: " ++ r
  | .invalidKey f => "Invalid key format: " ++ f.reason
  | .invalidInput f => "Invalid input format: " ++ f.reason

/-- A fault of the hexadecimal codec, as a failure of an input. -/
def Hex.Fault.toFailure (f : Hex.Fault) : Failure := .invalidInput (.notHex f)

end HexSigner
