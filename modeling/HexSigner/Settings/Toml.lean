import HexSigner.Settings.Basic
import HexSigner.Toml.Document
import HexSigner.Toml.Extract

/-!
# Settings in TOML

Settings are a document with a table for each group, and each field under its own name.  Whatever is
left out has its default.
-/

set_option autoImplicit false

namespace HexSigner

open Toml

/-- The settings of events in a document. -/
def LogSettings.extract : Extract LogSettings :=
  .record "struct LoggingConfig"
    [.of "level" .text fun s level ↦ { s with level },
      .of "format" (.choice LogFormat.named) fun s format ↦ { s with format }] {}

/-- The settings of signatures in a document. -/
def SignatureSettings.extract : Extract SignatureSettings :=
  .record "struct SignatureConfig"
    [.of "verification" (.choice VerificationPolicy.named) fun s verification ↦
        { s with verification },
      .of "diagnostics" .boolean fun s diagnostics ↦ { s with diagnostics }] {}

/-- All settings in a document. -/
def Settings.extract : Extract Settings :=
  .record "struct Config"
    [.of "logging" LogSettings.extract fun s logging ↦ { s with logging },
      .of "signature" SignatureSettings.extract fun s signature ↦ { s with signature }] {}

/-- Why a TOML text does not hold settings. -/
inductive Toml.Fault where
  /-- The text is no TOML document. -/
  | malformed
  | misfit (misfit : Misfit)

/-- The settings in a TOML text. -/
def Settings.ofToml (text : String) : Except Toml.Fault Settings :=
  match Toml.read text with
  | none => .error .malformed
  | some t => (Settings.extract (.table t)).mapError .misfit

end HexSigner
