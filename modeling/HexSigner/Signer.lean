import HexSigner.Key.Pair
import HexSigner.Log.Event
import HexSigner.Settings.Basic

/-!
# The signer

The operations that the library offers, all of them over hexadecimal text.  They come in two kinds.

* *Constructors* (`generate`, `sign`, `parsePublicKey`) say why they fail.
* *Predicates* (`verify`, `validatePublicKey`) answer yes or no.  Malformed input and a signature
  that does not verify look alike, so the answer tells nothing about the structure of a key or
  signature; the reason goes into an event, if the settings ask for it.

A digest is signed as it is, without hashing it first.  Nothing here keeps state: generating a key
pair takes what the source of randomness supplied as an argument.
-/

set_option autoImplicit false

namespace HexSigner

/-- A signature algorithm. -/
structure Scheme where
  name : String
  publicKeyLength : Nat
  signatureLength : Nat
  /-- Whether a digest is hashed before it is signed. -/
  prehashed : Bool
deriving DecidableEq, Repr

/-- The algorithm of this signer. -/
def Scheme.ed25519 : Scheme where
  name := "Ed25519"
  publicKeyLength := HexSigner.publicKeyLength
  signatureLength := HexSigner.signatureLength
  prehashed := false

/-- What the source of randomness supplies for one key pair: a seed, or a failure. -/
abbrev Draw : Type := Except Failure (Octets 32)

namespace Entropy

/-- The event of a source of randomness that supplies nothing, within an operation. -/
def unavailable (operation : Option Log.Operation) (reason : String) : Log.Event where
  level := .warn
  target := "asymsig_crypto::entropy"
  span := operation
  message := "OS entropy source unavailable"
  fields := [⟨"error", reason, false⟩]

/-- Draws from the operating system, which supplies bytes or says why it does not. -/
def fill {n : Nat} (operation : Option Log.Operation) (supplied : Except String (Octets n)) :
    Logged (Except Failure (Octets n)) :=
  match supplied with
  | .ok bytes => ⟨.ok bytes, []⟩
  | .error reason =>
    ⟨.error (.keyGeneration ("entropy source unavailable: " ++ reason)),
      [unavailable operation reason]⟩

end Entropy

namespace Signer

/-- The target of the signer's events. -/
def target : String := "asymsig_crypto::provider"

/-- An event of one of the signer's operations, with one field. -/
def event (operation message field value : String) : Log.Event where
  level := .debug
  target := target
  span := some ⟨operation, target⟩
  message := message
  fields := [⟨field, value, false⟩]

/-- Makes a key pair from a draw. -/
def generate (draw : Draw) : Logged (Except Failure KeyPair) :=
  match draw with
  | .error f => ⟨.error f, []⟩
  | .ok seed =>
    let pair : KeyPair := ⟨seed⟩
    ⟨.ok pair, [event "generate_keypair" "generated Ed25519 key pair" "key_id"
      pair.publicKey.identifier]⟩

/-- Makes a key pair from what the operating system supplies. -/
def generateFromSystem (supplied : Except String (Octets 32)) : Logged (Except Failure KeyPair) :=
  let drawn := Entropy.fill (some ⟨"generate_keypair", target⟩) supplied
  let made := generate drawn.value
  ⟨made.value, drawn.events ++ made.events⟩

/-- Signs a digest with a private key. -/
def sign (privateKey digest : String) : Except Failure Signature :=
  match KeyPair.ofText privateKey with
  | .error f => .error f
  | .ok pair =>
    match Hex.decode digest with
    | .error f => .error f.toFailure
    | .ok message => .ok (Ed25519.sign pair.seed message)

/-- Reads a public key. -/
def parsePublicKey (text : String) : Except Failure PublicKey := PublicKey.ofText text

/-- Whether a text is a public key. -/
def validatePublicKey (text : String) : Bool := (PublicKey.ofText text).toBool

/-! ## Verifying -/

/-- Why a verification answers no. -/
inductive Rejection where
  | publicKey (failure : Failure)
  | signature (failure : Failure)
  | digest (failure : Failure)
  | invalid (rejection : Ed25519.Rejection)
deriving DecidableEq, Repr

/-- The wording of a rejection. -/
def Rejection.message : Rejection → String
  | .publicKey f => "malformed public key: " ++ f.message
  | .signature f => "malformed signature: " ++ f.message
  | .digest f => "malformed digest: " ++ f.message
  | .invalid r => "signature does not verify: " ++ r.message

/-- Checks a signature; the first of key, signature and digest that is malformed is reported. -/
def check (policy : VerificationPolicy) (publicKey signature digest : String) :
    Except Rejection Unit := do
  let key ← (PublicKey.ofText publicKey).mapError .publicKey
  let signature ← (Signature.ofText signature).mapError .signature
  let message ← (Hex.decode digest).mapError fun f ↦ .digest f.toFailure
  (Ed25519.check policy key message signature).mapError .invalid

/-- Whether a signature of a digest is valid under a public key. -/
def verify (settings : SignatureSettings) (publicKey signature digest : String) : Logged Bool :=
  match check settings.verification publicKey signature digest with
  | .ok () => ⟨true, []⟩
  | .error r =>
    ⟨false, if settings.diagnostics then [event "verify" "signature rejected" "reason" r.message]
      else []⟩

/-- How a signer that draws from the operating system is shown in diagnostics. -/
def describe (settings : SignatureSettings) : String :=
  "Ed25519Provider \x7b config: " ++ settings.describe ++ ", entropy: OsEntropy \x7d"

end Signer

end HexSigner
