import HexSigner.Json.Reader
import HexSigner.Settings.Basic

/-!
# Settings in JSON

Settings are an object of objects, each field under its own name.  Whatever is left out has its
default.
-/

set_option autoImplicit false

namespace HexSigner

open Json

/-- Reads the settings of events. -/
def LogSettings.reader : Reader LogSettings :=
  .record "struct LoggingConfig"
    [.of "level" .text fun s level ↦ { s with level },
      .of "format" (.choice LogFormat.named) fun s format ↦ { s with format }] {}

/-- Reads the settings of signatures. -/
def SignatureSettings.reader : Reader SignatureSettings :=
  .record "struct SignatureConfig"
    [.of "verification" (.choice VerificationPolicy.named) fun s verification ↦
        { s with verification },
      .of "diagnostics" .boolean fun s diagnostics ↦ { s with diagnostics }] {}

/-- Reads all settings. -/
def Settings.reader : Reader Settings :=
  .record "struct Config"
    [.of "logging" LogSettings.reader fun s logging ↦ { s with logging },
      .of "signature" SignatureSettings.reader fun s signature ↦ { s with signature }] {}

/-- The settings in a JSON text. -/
def Settings.ofJson (text : String) : Except Json.Fault Settings := Settings.reader.runAll text

end HexSigner
