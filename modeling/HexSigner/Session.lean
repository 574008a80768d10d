import HexSigner.Signer

/-!
# Sessions

A session uses the signer step by step.  It owns a script of draws, the settings at hand, and two
lists that only grow: the keys it generated or parsed, and the signatures it made.  Steps refer to
keys and signatures by their place in these lists, or give them as text.

Only `generate` touches the script, and takes exactly one draw from it; a script that is used up
supplies a failure.  A step that fails leaves both lists as they were.
-/

set_option autoImplicit false

namespace HexSigner.Session

/-- A key that a session holds. -/
inductive StoredKey where
  | pair (pair : KeyPair)
  | parsed (key : PublicKey)
deriving DecidableEq

namespace StoredKey

/-- The public key. -/
def publicKey : StoredKey → PublicKey
  | .pair p => p.publicKey
  | .parsed k => k

/-- The text that signing uses: the private key of a pair.  For a parsed key it is the public key,
with which signing fails. -/
def signingText : StoredKey → String
  | .pair p => p.toText
  | .parsed k => k.toText

end StoredKey

/-- The state of a session. -/
structure State where
  settings : SignatureSettings
  /-- The draws that are left. -/
  script : List Draw
  keys : List StoredKey := []
  signatures : List Signature := []

/-- A text, or the place of an entry of a list. -/
inductive Reference where
  | text (text : String)
  | entry (index : Nat)
deriving DecidableEq, Repr

/-- A step of a session. -/
inductive Step where
  /-- Replaces the settings. -/
  | configure (settings : SignatureSettings)
  /-- Goes on with a copy of the signer. -/
  | clone
  | generate
  | parse (key : Reference)
  | validate (key : Reference)
  | sign (key : Reference) (digest : String)
  /-- Verifies a signature, of which one bit may be inverted if it is one of the list. -/
  | verify (key signature : Reference) (flip : Option Nat) (digest : String)
  | sameKey (a b : Nat)
  | sameSignature (a b : Nat)
deriving Repr

/-- What a step answers. -/
inductive Answer where
  | settings (settings : SignatureSettings)
  | scheme (scheme : Scheme)
  | pair (pair : KeyPair)
  | publicKey (key : PublicKey)
  | valid (verdict : Bool)
  | signature (signature : Signature)
  /-- Whether two entries are equal, and how many different ones there are among them. -/
  | same (equal : Bool) (distinct : Nat)
  | failed (failure : Failure)
  /-- The step refers to an entry that is not there. -/
  | noSuchEntry

/-- What is observed of a step: its answer, its events, and how the state looks after it. -/
structure Report where
  answer : Answer
  events : List Log.Event
  keys : Nat
  signatures : Nat
  scriptLeft : Nat

/-- What a source of randomness supplies when its script is used up. -/
def exhausted : Failure := .keyGeneration "entropy exhausted"

/-- Takes the next draw of a script. -/
def takeDraw : List Draw → Draw × List Draw
  | [] => (.error exhausted, [])
  | draw :: rest => (draw, rest)

/-- Inverts one bit of a signature, counting from the lowest bit of the first byte. -/
def flipBit (s : Signature) (bit : Nat) : Signature :=
  ⟨⟨s.bytes.toList.modify (bit / 8) (· ^^^ (1 <<< UInt8.ofNat (bit % 8))), by
    simp [s.bytes.length_eq]⟩⟩

/-- The text of a public key that a step refers to. -/
def State.publicText (s : State) : Reference → Option String
  | .text t => some t
  | .entry i => s.keys[i]?.map fun k ↦ k.publicKey.toText

/-- The text of a private key that a step refers to. -/
def State.signingText (s : State) : Reference → Option String
  | .text t => some t
  | .entry i => s.keys[i]?.map StoredKey.signingText

/-- The text of a signature that a step refers to. -/
def State.signatureText (s : State) (flip : Option Nat) : Reference → Option String
  | .text t => some t
  | .entry i => s.signatures[i]?.map fun g ↦ ((flip.map (flipBit g)).getD g).toText

/-- Compares two entries, of which either may be missing. -/
def compare {α : Type} [DecidableEq α] : Option α → Option α → Answer
  | some a, some b => if a = b then .same true 1 else .same false 2
  | _, _ => .noSuchEntry

/-- The state after a step, its answer and its events. -/
def step (s : State) : Step → State × Answer × List Log.Event
  | .configure settings => ({ s with settings }, .settings settings, [])
  | .clone => (s, .scheme .ed25519, [])
  | .generate =>
    let (draw, script) := takeDraw s.script
    let made := Signer.generate draw
    match made.value with
    | .error f => ({ s with script }, .failed f, made.events)
    | .ok pair => ({ s with script, keys := s.keys ++ [.pair pair] }, .pair pair, made.events)
  | .parse key =>
    match s.publicText key with
    | none => (s, .noSuchEntry, [])
    | some text =>
      match Signer.parsePublicKey text with
      | .error f => (s, .failed f, [])
      | .ok k => ({ s with keys := s.keys ++ [.parsed k] }, .publicKey k, [])
  | .validate key =>
    match s.publicText key with
    | none => (s, .noSuchEntry, [])
    | some text => (s, .valid (Signer.validatePublicKey text), [])
  | .sign key digest =>
    match s.signingText key with
    | none => (s, .noSuchEntry, [])
    | some text =>
      match Signer.sign text digest with
      | .error f => (s, .failed f, [])
      | .ok g => ({ s with signatures := s.signatures ++ [g] }, .signature g, [])
  | .verify key signature flip digest =>
    match s.publicText key, s.signatureText flip signature with
    | some keyText, some signatureText =>
      let verdict := Signer.verify s.settings keyText signatureText digest
      (s, .valid verdict.value, verdict.events)
    | _, _ => (s, .noSuchEntry, [])
  | .sameKey a b =>
    let bytes (i : Nat) := s.keys[i]?.map fun k ↦ k.publicKey.bytes
    (s, compare (bytes a) (bytes b), [])
  | .sameSignature a b => (s, compare s.signatures[a]? s.signatures[b]?, [])

/-- What is observed of a step that led to the given state. -/
def report (s : State) (answer : Answer) (events : List Log.Event) : Report :=
  ⟨answer, events, s.keys.length, s.signatures.length, s.script.length⟩

/-- Runs steps one after the other, with the state after each. -/
def run (s : State) : List Step → List (State × Report)
  | [] => []
  | first :: rest =>
    let (next, answer, events) := step s first
    (next, report next answer events) :: run next rest

end HexSigner.Session
