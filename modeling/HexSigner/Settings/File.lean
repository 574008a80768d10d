import HexSigner.Log.Event
import HexSigner.Settings.Toml
import HexSigner.Text.Basic

/-!
# Settings from a file

A file of settings holds a TOML document in UTF-8.  Where the file comes from is not the concern of
this library: it takes what reading the file gave, be it bytes or the reason why there are none.
-/

set_option autoImplicit false

namespace HexSigner

/-- Why a file cannot be read. -/
inductive FileFault where
  | notFound
  | permissionDenied
  | notDirectory
  | isDirectory
  | nameTooLong
  /-- The path has a character that no path may have. -/
  | badPath
  /-- Anything else, in the words of the operating system. -/
  | other (reason : String)
deriving DecidableEq, Repr

/-- The wording of a fault. -/
def FileFault.message : FileFault → String
  | .notFound => "No such file or directory (os error 2)"
  | .permissionDenied => "Permission denied (os error 13)"
  | .notDirectory => "Not a directory (os error 20)"
  | .isDirectory => "Is a directory (os error 21)"
  | .nameTooLong => "File name too long (os error 36)"
  | .badPath => "file name contained an unexpected NUL byte"
  | .other reason => reason

/-- Why settings cannot be loaded. -/
inductive LoadFault where
  | file (fault : FileFault)
  /-- The file is not in UTF-8. -/
  | notText
  /-- The file is no TOML document. -/
  | malformed
  /-- The document in the file does not fit; the text is that of the document. -/
  | misfit (text : String) (misfit : Toml.Misfit)

/-- The wording of a fault. -/
def LoadFault.message : LoadFault → String
  | .file f => f.message
  | .notText => "stream did not contain valid UTF-8"
  | .malformed => "TOML parse error\n"
  | .misfit text m => m.message text

/-- The event of loading settings. -/
def Settings.loadedEvent (path : String) : Log.Event where
  level := .debug
  target := "asymsig_core::config"
  span := none
  message := "loaded configuration"
  fields := [⟨"path", path, false⟩]

/-- The settings in a text. -/
def Settings.ofText (text : String) : Except LoadFault Settings :=
  match Settings.ofToml text with
  | .ok s => .ok s
  | .error .malformed => .error .malformed
  | .error (.misfit m) => .error (.misfit text m)

/-- The settings in a file, given its content. -/
def Settings.load (path : String) (content : Except FileFault (List UInt8)) :
    Logged (Except LoadFault Settings) :=
  match content with
  | .error f => ⟨.error (.file f), []⟩
  | .ok bytes =>
    match Text.ofUtf8? bytes with
    | none => ⟨.error .notText, []⟩
    | some text =>
      match Settings.ofText text with
      | .error f => ⟨.error f, []⟩
      | .ok s => ⟨.ok s, [loadedEvent path]⟩

end HexSigner
