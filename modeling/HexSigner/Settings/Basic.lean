import HexSigner.Ed25519
import HexSigner.Text.Quoted

/-!
# Settings

What a user can choose: which events are shown and how, which signatures are accepted, and whether a
rejected signature is explained in an event.  Every choice has a default, so a document of settings
says only what differs from it.
-/

set_option autoImplicit false

namespace HexSigner

/-- How events are written. -/
inductive LogFormat where
  | text
  | json
deriving DecidableEq, Repr

/-- Which events are shown, and how. -/
structure LogSettings where
  /-- The directives that select events, unless the environment gives others. -/
  level : String := "info"
  format : LogFormat := .text
deriving DecidableEq, Repr

/-- How signatures are verified. -/
structure SignatureSettings where
  verification : VerificationPolicy := .standard
  /-- Whether a rejected signature is explained in an event. -/
  diagnostics : Bool := true
deriving DecidableEq, Repr

/-- All settings. -/
structure Settings where
  logging : LogSettings := {}
  signature : SignatureSettings := {}
deriving DecidableEq, Repr

/-! ## Names -/

/-- The name of a format in documents. -/
def LogFormat.name : LogFormat → String
  | .text => "text"
  | .json => "json"

/-- All formats, in the order in which messages list them. -/
def LogFormat.all : List LogFormat := [.text, .json]

/-- The name of a policy in documents. -/
def VerificationPolicy.name : VerificationPolicy → String
  | .standard => "standard"
  | .strict => "strict"

/-- All policies, in the order in which messages list them. -/
def VerificationPolicy.all : List VerificationPolicy := [.standard, .strict]

/-- The formats and their names. -/
def LogFormat.named : List (String × LogFormat) := LogFormat.all.map fun f ↦ (f.name, f)

/-- The policies and their names. -/
def VerificationPolicy.named : List (String × VerificationPolicy) :=
  VerificationPolicy.all.map fun p ↦ (p.name, p)

/-! ## Writing -/

/-- A truth value in documents. -/
def boolText (b : Bool) : String := if b then "true" else "false"

/-- The compact JSON text of settings. -/
def Settings.toJson (s : Settings) : String :=
  "\x7b\"logging\":\x7b\"level\":" ++ Json.quoted s.logging.level ++
    ",\"format\":" ++ Json.quoted s.logging.format.name ++
    "\x7d,\"signature\":\x7b\"verification\":" ++ Json.quoted s.signature.verification.name ++
    ",\"diagnostics\":" ++ boolText s.signature.diagnostics ++ "\x7d\x7d"

/-- How verification settings are shown in diagnostics. -/
def SignatureSettings.describe (s : SignatureSettings) : String :=
  let policy := match s.verification with
    | .standard => "Standard"
    | .strict => "Strict"
  "SignatureConfig \x7b verification: " ++ policy ++ ", diagnostics: " ++ boolText s.diagnostics ++
    " \x7d"

end HexSigner
