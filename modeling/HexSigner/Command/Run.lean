import HexSigner.Command.Options
import HexSigner.Log.Logger
import HexSigner.Settings.File
import HexSigner.Signer

/-!
# The command line

What a run of the program does, as a function of its arguments and of what it finds around it: the
environment variables, the files and the randomness.  The outcome is an exit code and the two texts
that it writes.

The faults of a run are looked for in a fixed order: options, settings, the filter of events, the
command, the options it requires, and what the signer says.  A filter that is only wrong is no
fault; one that cannot be taken apart ends the run.  Everything about logging goes to the second
text, so how much is logged never changes the first text or the exit code of a run that goes on.
-/

set_option autoImplicit false

namespace HexSigner.Command

/-- Where a run is, as it says when it cannot go on. -/
structure Whereabouts where
  /-- The number of its thread. -/
  thread : Nat
  /-- Where in the sources each part of a directive is cut out. -/
  placeOf : Log.Directive.Part → String
  /-- The calls that led to where the run is, if they are asked for. -/
  backtrace : Option String

/-- What a run finds around it. -/
structure Surroundings where
  /-- The filter of events that is asked for. -/
  filter : Option String
  /-- The variable that switches colours off unless it is empty. -/
  noColor : Option String
  contentOf : String → Except FileFault (List UInt8)
  /-- What the operating system supplies for a seed, or why it supplies nothing. -/
  randomness : Except String (Octets 32)
  /-- The time that is shown with events. -/
  time : String
  whereabouts : Whereabouts

/-- How a run ends. -/
inductive ExitCode where
  | success
  /-- The answer is no. -/
  | refused
  | failed
  /-- The run could not go on. -/
  | aborted
deriving DecidableEq, Repr

/-- The number of an exit code. -/
def ExitCode.number : ExitCode → Nat
  | .success => 0
  | .refused => 1
  | .failed => 2
  | .aborted => 101

/-- What comes of a run. -/
structure Outcome where
  code : ExitCode
  stdout : String
  stderr : String
deriving DecidableEq, Repr

/-- What the program says about its use, line by line. -/
def usageLines : List String :=
  [
    "Asymsig CLI - Ed25519 keys and signatures over hex strings",
    "",
    "USAGE:",
    "    asymsig-cli keygen [--json]",
    "    asymsig-cli sign --private-key <hex> --digest <hex> [--json]",
    "    asymsig-cli verify --public-key <hex> --signature <hex> --digest <hex> [--json]",
    "    asymsig-cli check-key --public-key <hex> [--json]",
    "",
    "OPTIONS:",
    "    --config <file>    Load settings from a TOML file",
    "",
    "Public keys are X.509 SubjectPublicKeyInfo DER, private keys PKCS#8 DER,",
    "both hex-encoded. The digest is signed as given, without hashing."
  ]

/-- What the program says about its use. -/
def usage : String := String.join (usageLines.map (· ++ "\n"))

/-! ## Answers -/

/-- What a command answers. -/
inductive Answer where
  | pair (pair : KeyPair)
  | signature (signature : Signature)
  | signatureValid (valid : Bool)
  | keyValid (valid : Bool)
deriving DecidableEq

namespace Answer

/-- Whether an answer is no. -/
def code : Answer → ExitCode
  | .signatureValid false => .refused
  | .keyValid false => .refused
  | _ => .success

/-- An answer in text. -/
def text : Answer → String
  | .pair p =>
    "Key id:      " ++ p.publicKey.identifier ++ "\nPublic key:  " ++ p.publicKey.toText ++
      "\nPrivate key: " ++ p.toText
  | .signature s => s.toText
  | .signatureValid true => "✓ Signature is VALID"
  | .signatureValid false => "✗ Signature is INVALID"
  | .keyValid true => "✓ Public key is well-formed"
  | .keyValid false => "✗ Public key is NOT well-formed"

/-- The members of the JSON object for an answer, with their values in JSON. -/
def members : Answer → List (String × String)
  | .pair p =>
    [("public_key", Json.quoted p.publicKey.toText), ("private_key", Json.quoted p.toText),
      ("key_id", Json.quoted p.publicKey.identifier)]
  | .signature s => [("signature", Json.quoted s.toText)]
  | .signatureValid b => [("valid", boolText b)]
  | .keyValid b => [("valid", boolText b)]

/-- A JSON object with a member in each line. -/
def object (members : List (String × String)) : String :=
  "\x7b\n" ++
    ",\n".intercalate (members.map fun (name, value) ↦ "  " ++ Json.quoted name ++ ": " ++ value) ++
    "\n\x7d"

/-- An answer as it is written. -/
def render (json : Bool) (a : Answer) : String :=
  (if json then object a.members else a.text) ++ "\n"

end Answer

/-! ## Faults -/

/-- Why a run fails. -/
inductive Fault where
  | options (fault : Options.Fault)
  | settings (path : String) (fault : LoadFault)
  | unknownCommand (name : String)
  | missingOption (name : String)
  | generating (failure : Failure)
  | signing (failure : Failure)

/-- The wording of a fault. -/
def Fault.message : Fault → String
  | .options f => f.message
  | .settings path f => "Failed to load config from " ++ path ++ ": " ++ f.message
  | .unknownCommand name => "Unknown command: " ++ name
  | .missingOption name => "Missing required option --" ++ name
  | .generating f => f.message
  | .signing f => "Failed to sign digest: " ++ f.message

/-! ## Commands -/

/-- The value of an option that a command requires. -/
def required (o : Options) (name : String) : Except Fault String :=
  match o.value? name with
  | some v => .ok v
  | none => .error (.missingOption name)

/-- Carries a command out. -/
def execute (settings : SignatureSettings) (randomness : Except String (Octets 32))
    (command : String) (o : Options) : Logged (Except Fault Answer) :=
  match command with
  | "keygen" =>
    let made := Signer.generateFromSystem randomness
    ⟨(made.value.map .pair).mapError .generating, made.events⟩
  | "sign" => .ofExcept do
    let key ← required o "private-key"
    let digest ← required o "digest"
    let signature ← (Signer.sign key digest).mapError .signing
    return ⟨.signature signature, []⟩
  | "verify" => .ofExcept do
    let key ← required o "public-key"
    let signature ← required o "signature"
    let digest ← required o "digest"
    let verdict := Signer.verify settings key signature digest
    return ⟨.signatureValid verdict.value, verdict.events⟩
  | "check-key" => .ofExcept do
    let key ← required o "public-key"
    return ⟨.keyValid (Signer.validatePublicKey key), []⟩
  | name => ⟨.error (.unknownCommand name), []⟩

/-- The settings that a run uses. -/
def loadSettings (s : Surroundings) (o : Options) : Except Fault Settings :=
  match o.value? "config" with
  | none => .ok {}
  | some path => (Settings.load path (s.contentOf path)).value.mapError (.settings path)

/-- The event before a command is carried out. -/
def startEvent (command : String) : Log.Event where
  level := .debug
  target := "asymsig_cli"
  span := none
  message := "provider initialised"
  fields := [⟨"scheme", Scheme.ed25519.name, true⟩, ⟨"command", command, true⟩]

/-- Whether log lines are in colour. -/
def Surroundings.coloured (s : Surroundings) : Bool := (s.noColor.getD "") = ""

/-- The outcome of a run that fails, after what was logged. -/
def Fault.outcome (logged : String) (f : Fault) : Outcome :=
  ⟨.failed, "", logged ++ "Error: " ++ f.message ++ "\n"⟩

/-- How to see the calls that led to where a run is. -/
def Whereabouts.hint : String :=
  "note: run with `RUST_BACKTRACE=1` environment variable to display a backtrace\n"

/-- The last words of a run that cannot go on, since a part of a directive cannot be cut out. -/
def Whereabouts.lastWords (w : Whereabouts) (cut : Log.Directive.BadCut) : String :=
  "\nthread 'main' (" ++ toString w.thread ++ ") panicked at " ++ w.placeOf cut.part ++ ":\n" ++
    cut.straddle.message ++ "\n" ++ w.backtrace.getD hint

/-- Runs a command whose options and settings are known.  Nothing is logged before. -/
def runWith (s : Surroundings) (settings : Settings) (command : String) (o : Options) : Outcome :=
  let (logger, warnings) := Log.Logger.ofSettings s.filter settings.logging
  let warned := String.join (warnings.map (· ++ "\n"))
  match logger with
  | .error cut => ⟨.aborted, "", warned ++ s.whereabouts.lastWords cut⟩
  | .ok logger =>
    let done := execute settings.signature s.randomness command o
    let logged := warned ++ logger.write s.coloured s.time (startEvent command :: done.events)
    match done.value with
    | .error f => f.outcome logged
    | .ok answer => ⟨answer.code, answer.render o.json, logged⟩

/-- Runs a command with its arguments. -/
def runCommand (s : Surroundings) (command : String) (arguments : List String) : Outcome :=
  match Options.parse arguments with
  | .error f => Fault.outcome "" (.options f)
  | .ok o =>
    match loadSettings s o with
    | .error f => f.outcome ""
    | .ok settings => runWith s settings command o

/-- The commands that ask for the usage. -/
def isHelp (command : String) : Bool := command = "help" || command = "--help" || command = "-h"

/-- The path of the file of settings that a run reads, if it reads one. -/
def settingsPath? : List String → Option String
  | [] => none
  | command :: arguments =>
    if isHelp command then none
    else (Options.parse arguments).toOption.bind (·.value? "config")

/-- Runs the program. -/
def run (s : Surroundings) : List String → Outcome
  | [] => ⟨.failed, usage, ""⟩
  | command :: arguments =>
    if isHelp command then ⟨.success, usage, ""⟩ else runCommand s command arguments

end HexSigner.Command
