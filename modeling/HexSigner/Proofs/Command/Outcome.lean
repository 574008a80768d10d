import HexSigner.Proofs.Command.Answer
import HexSigner.Proofs.Log.Fatal
import Mathlib.Data.List.Forall2

/-!
# How a run of the program ends

A run ends in one of a few ways, and which one it is depends on what is wrong first.  `Ends` says so
without following the program: a fault only counts if everything before it went well
(`FirstFault`), and a command only answers if nothing is wrong at all.  Every run ends in one of
these ways (`exists_ends`), and the way determines the exit code and what is written, up to what was
logged (`run_of_ends`).

What the program promises follows from these two (`run_keepsContract`): the exit codes, and the
answer in the form that was asked for.  There is one way to end that the promise leaves out.  A
filter of events that is wrong is no fault, but one that is fatal ends the run with a fourth code
(`run_shiftedFilter`).
-/

set_option autoImplicit false

namespace HexSigner.Command

/-! ## What is asked of a run -/

/-- The options that a command requires, in the order in which it asks for them.  Other texts are no
commands. -/
def requirements : String → Option (List String)
  | "keygen" => some []
  | "sign" => some ["private-key", "digest"]
  | "verify" => some ["public-key", "signature", "digest"]
  | "check-key" => some ["public-key"]
  | _ => none

/-- All of some options are given, with these values. -/
def Given (o : Options) (names values : List String) : Prop :=
  List.Forall₂ (fun name value ↦ o.value? name = some value) names values

/-- The first of some options that is not given. -/
def FirstMissing (o : Options) (names : List String) (name : String) : Prop :=
  ∃ before after, names = before ++ name :: after ∧ (∀ n ∈ before, o.value? n ≠ none) ∧
    o.value? name = none

/-- What the signer answers to a command, given the values of the options that it requires. -/
inductive Answers (settings : SignatureSettings) (randomness : Except String (Octets 32)) :
    String → List String → Answer → Prop
  | keygen {p : KeyPair} (h : (Signer.generateFromSystem randomness).value = .ok p) :
    Answers settings randomness "keygen" [] (.pair p)
  | sign {key digest : String} {g : Signature} (h : Signer.sign key digest = .ok g) :
    Answers settings randomness "sign" [key, digest] (.signature g)
  | verify (key signature digest : String) :
    Answers settings randomness "verify" [key, signature, digest]
      (.signatureValid (Signer.verify settings key signature digest).value)
  | checkKey (key : String) :
    Answers settings randomness "check-key" [key] (.keyValid (Signer.validatePublicKey key))

/-- Why the signer does not answer. -/
inductive Refuses (randomness : Except String (Octets 32)) :
    String → List String → Fault → Prop
  | keygen {f : Failure} (h : (Signer.generateFromSystem randomness).value = .error f) :
    Refuses randomness "keygen" [] (.generating f)
  | sign {key digest : String} {f : Failure} (h : Signer.sign key digest = .error f) :
    Refuses randomness "sign" [key, digest] (.signing f)

/-- The options and the settings of a run are known. -/
structure Known (s : Surroundings) (arguments : List String) (o : Options) (settings : Settings) :
    Prop where
  parsed : Options.parse arguments = .ok o
  loaded : loadSettings s o = .ok settings

/-- The filter of events is not fatal. -/
def Readable (s : Surroundings) (settings : Settings) : Prop :=
  ∃ logger, (Log.Logger.ofSettings s.filter settings.logging).1 = .ok logger

/-- What comes before a command went well. -/
structure Ready (s : Surroundings) (arguments : List String) (o : Options) (settings : Settings) :
    Prop extends Known s arguments o settings where
  readable : Readable s settings

/-- What is wrong first with a run. -/
inductive FirstFault (s : Surroundings) (command : String) (arguments : List String) : Fault → Prop
  | options {f : Options.Fault} (h : Options.parse arguments = .error f) :
    FirstFault s command arguments (.options f)
  | settings {o : Options} {f : Fault} (hoptions : Options.parse arguments = .ok o)
      (h : loadSettings s o = .error f) :
    FirstFault s command arguments f
  | unknownCommand {o : Options} {settings : Settings} (hready : Ready s arguments o settings)
      (h : requirements command = none) :
    FirstFault s command arguments (.unknownCommand command)
  | missingOption {o : Options} {settings : Settings} {names : List String} {name : String}
      (hready : Ready s arguments o settings) (hcommand : requirements command = some names)
      (h : FirstMissing o names name) :
    FirstFault s command arguments (.missingOption name)
  | refusal {o : Options} {settings : Settings} {names values : List String} {f : Fault}
      (hready : Ready s arguments o settings) (hcommand : requirements command = some names)
      (hgiven : Given o names values) (h : Refuses s.randomness command values f) :
    FirstFault s command arguments f

/-- How a run ends. -/
inductive Ending where
  /-- Nothing is asked of it. -/
  | idle
  | help
  | answered (json : Bool) (answer : Answer)
  | failed (fault : Fault)
  | aborted

/-- How a run with some arguments ends. -/
inductive Ends (s : Surroundings) : List String → Ending → Prop
  | idle : Ends s [] .idle
  | help {command : String} (h : isHelp command = true) (arguments : List String) :
    Ends s (command :: arguments) .help
  | answered {command : String} {arguments names values : List String} {o : Options}
      {settings : Settings} {answer : Answer} (hready : Ready s arguments o settings)
      (hcommand : requirements command = some names) (hgiven : Given o names values)
      (h : Answers settings.signature s.randomness command values answer) :
    Ends s (command :: arguments) (.answered o.json answer)
  | failed {command : String} {arguments : List String} {f : Fault}
      (hhelp : isHelp command = false) (h : FirstFault s command arguments f) :
    Ends s (command :: arguments) (.failed f)
  | aborted {command : String} {arguments : List String} {o : Options} {settings : Settings}
      (hhelp : isHelp command = false) (hknown : Known s arguments o settings)
      (h : ¬Readable s settings) :
    Ends s (command :: arguments) .aborted

/-! ## Carrying a command out -/

section Execute

variable {settings : SignatureSettings} {randomness : Except String (Octets 32)}
  {command : String} {o : Options} {names values : List String}

theorem given_or_firstMissing (o : Options) (names : List String) :
    (∃ values, Given o names values) ∨ ∃ name, FirstMissing o names name := by
  induction names with
  | nil => exact .inl ⟨[], .nil⟩
  | cons name names ih =>
    cases hname : o.value? name with
    | none => exact .inr ⟨name, [], names, rfl, nofun, hname⟩
    | some value =>
      obtain ⟨values, hvalues⟩ | ⟨missing, before, after, rfl, hbefore, hmissing⟩ := ih
      · exact .inl ⟨value :: values, .cons hname hvalues⟩
      · -- what is missing further on is still the first that is missing
        refine .inr ⟨missing, name :: before, after, rfl, ?_, hmissing⟩
        simpa [hname] using hbefore

theorem not_firstMissing_nil {name : String} : ¬FirstMissing o [] name := by
  rintro ⟨before, after, h, -⟩
  exact List.append_ne_nil_of_right_ne_nil before (List.cons_ne_nil name after) h.symm

/-- The first option that is asked for is the one that is not given, or it is given and the others
are left to ask for. -/
theorem FirstMissing.cons_cases {n name : String} (h : FirstMissing o (n :: names) name) :
    n = name ∧ o.value? n = none ∨ ∃ value, o.value? n = some value ∧ FirstMissing o names name := by
  obtain ⟨before, after, hnames, hbefore, hname⟩ := h
  cases before with
  | nil =>
    obtain ⟨rfl, -⟩ := List.cons.inj hnames
    exact .inl ⟨rfl, hname⟩
  | cons m before =>
    obtain ⟨rfl, hrest⟩ := List.cons.inj hnames
    obtain ⟨value, hvalue⟩ := Option.ne_none_iff_exists'.mp (hbefore n List.mem_cons_self)
    have hgiven : ∀ m ∈ before, o.value? m ≠ none := fun m hm ↦
      hbefore m (List.mem_cons_of_mem n hm)
    exact .inr ⟨value, hvalue, before, after, hrest, hgiven, hname⟩

/-- A command asks for the options that it requires, one after the other, before anything else. -/
theorem execute_of_firstMissing {name : String} (hcommand : requirements command = some names)
    (h : FirstMissing o names name) :
    execute settings randomness command o = ⟨.error (.missingOption name), []⟩ := by
  rw [requirements.eq_def] at hcommand
  split at hcommand
  · cases hcommand
    exact absurd h not_firstMissing_nil
  · cases hcommand
    obtain ⟨rfl, hkey⟩ | ⟨key, hkey, h⟩ := h.cons_cases
    · simp [execute, required, hkey, bind, Except.bind, Logged.ofExcept]
    obtain ⟨rfl, hdigest⟩ | ⟨digest, hdigest, h⟩ := h.cons_cases
    · simp [execute, required, hkey, hdigest, bind, Except.bind, Logged.ofExcept]
    exact absurd h not_firstMissing_nil
  · cases hcommand
    obtain ⟨rfl, hkey⟩ | ⟨key, hkey, h⟩ := h.cons_cases
    · simp [execute, required, hkey, bind, Except.bind, Logged.ofExcept]
    obtain ⟨rfl, hsignature⟩ | ⟨signature, hsignature, h⟩ := h.cons_cases
    · simp [execute, required, hkey, hsignature, bind, Except.bind, Logged.ofExcept]
    obtain ⟨rfl, hdigest⟩ | ⟨digest, hdigest, h⟩ := h.cons_cases
    · simp [execute, required, hkey, hsignature, hdigest, bind, Except.bind, Logged.ofExcept]
    exact absurd h not_firstMissing_nil
  · cases hcommand
    obtain ⟨rfl, hkey⟩ | ⟨key, hkey, h⟩ := h.cons_cases
    · simp [execute, required, hkey, bind, Except.bind, Logged.ofExcept]
    exact absurd h not_firstMissing_nil
  · cases hcommand

theorem execute_of_requirements_eq_none (h : requirements command = none) :
    execute settings randomness command o = ⟨.error (.unknownCommand command), []⟩ := by
  rw [requirements.eq_def] at h
  split at h <;> try cases h
  rw [execute.eq_def]
  split <;> first | contradiction | rfl

variable (settings randomness) in
/-- Verifying answers whether the signature is valid, with the events of the signer. -/
theorem execute_verify {key signature digest : String}
    (hgiven : Given o ["public-key", "signature", "digest"] [key, signature, digest]) :
    execute settings randomness "verify" o =
      ⟨.ok (.signatureValid (Signer.verify settings key signature digest).value),
        (Signer.verify settings key signature digest).events⟩ := by
  obtain _ | ⟨hkey, _ | ⟨hsignature, _ | ⟨hdigest, -⟩⟩⟩ := hgiven
  simp [execute, required, hkey, hsignature, hdigest, bind, Except.bind, pure, Except.pure,
    Logged.ofExcept]

theorem execute_of_answers {answer : Answer} (hcommand : requirements command = some names)
    (hgiven : Given o names values) (h : Answers settings randomness command values answer) :
    (execute settings randomness command o).value = .ok answer := by
  cases h with
  | keygen hpair =>
    rw [execute, hpair]
    rfl
  | sign hsign =>
    cases hcommand
    obtain _ | ⟨hkey, _ | ⟨hdigest, -⟩⟩ := hgiven
    simp [execute, required, hkey, hdigest, hsign, bind, Except.bind, pure, Except.pure,
      Except.mapError, Logged.ofExcept]
  | verify key signature digest =>
    cases hcommand
    rw [execute_verify settings randomness hgiven]
  | checkKey key =>
    cases hcommand
    obtain _ | ⟨hkey, -⟩ := hgiven
    simp [execute, required, hkey, bind, Except.bind, pure, Except.pure, Logged.ofExcept]

theorem execute_of_refuses {f : Fault} (hcommand : requirements command = some names)
    (hgiven : Given o names values) (h : Refuses randomness command values f) :
    (execute settings randomness command o).value = .error f := by
  cases h with
  | keygen hfailure =>
    rw [execute, hfailure]
    rfl
  | sign hsign =>
    cases hcommand
    obtain _ | ⟨hkey, _ | ⟨hdigest, -⟩⟩ := hgiven
    simp [execute, required, hkey, hdigest, hsign, bind, Except.bind, Except.mapError,
      Logged.ofExcept]

/-- With everything that a command requires, the signer answers or says why it does not. -/
theorem answers_or_refuses (settings : SignatureSettings)
    (randomness : Except String (Octets 32)) (hcommand : requirements command = some names)
    (hgiven : Given o names values) :
    (∃ answer, Answers settings randomness command values answer) ∨
      ∃ f, Refuses randomness command values f := by
  rw [requirements.eq_def] at hcommand
  split at hcommand
  · cases hcommand
    cases hgiven
    cases hpair : (Signer.generateFromSystem randomness).value with
    | error f => exact .inr ⟨_, .keygen hpair⟩
    | ok p => exact .inl ⟨_, .keygen hpair⟩
  · cases hcommand
    obtain _ | ⟨-, _ | ⟨-, _ | _⟩⟩ := hgiven
    next key digest =>
    cases hsign : Signer.sign key digest with
    | error f => exact .inr ⟨_, .sign hsign⟩
    | ok g => exact .inl ⟨_, .sign hsign⟩
  · cases hcommand
    obtain _ | ⟨-, _ | ⟨-, _ | ⟨-, _ | _⟩⟩⟩ := hgiven
    exact .inl ⟨_, .verify _ _ _⟩
  · cases hcommand
    obtain _ | ⟨-, _ | _⟩ := hgiven
    exact .inl ⟨_, .checkKey _⟩
  · cases hcommand

end Execute

/-! ## Ways to end -/

section Run

variable {s : Surroundings} {arguments : List String}

theorem isHelp_eq_false_of_requirements {command : String} {names : List String}
    (h : requirements command = some names) : isHelp command = false := by
  rw [requirements.eq_def] at h
  split at h <;> first | decide | cases h

/-- What a run leaves behind when it ends in some way, after what was logged. -/
def Ending.outcome (logged : String) : Ending → Outcome
  | .idle => ⟨.failed, usage, ""⟩
  | .help => ⟨.success, usage, ""⟩
  | .answered json answer => ⟨answer.code, answer.render json, logged⟩
  | .failed f => f.outcome logged
  | .aborted => ⟨.aborted, "", logged⟩

theorem run_of_known {command : String} {o : Options} {settings : Settings}
    (hhelp : isHelp command = false) (h : Known s arguments o settings) :
    run s (command :: arguments) = runWith s settings command o := by
  simp [run, hhelp, runCommand, h.parsed, h.loaded]

/-- A run that is ready carries its command out, and what comes of that is what comes of the run. -/
theorem run_of_ready {command : String} {o : Options} {settings : Settings}
    (hhelp : isHelp command = false) (h : Ready s arguments o settings) :
    ∃ logged, run s (command :: arguments) =
      match (execute settings.signature s.randomness command o).value with
      | .error f => f.outcome logged
      | .ok answer => ⟨answer.code, answer.render o.json, logged⟩ := by
  obtain ⟨logger, hlogger⟩ := h.readable
  refine ⟨String.join ((Log.Logger.ofSettings s.filter settings.logging).2.map (· ++ "\n")) ++
    logger.write s.coloured s.time (startEvent command ::
      (execute settings.signature s.randomness command o).events), ?_⟩
  cases hvalue : (execute settings.signature s.randomness command o).value with
  | ok answer => simp [run_of_known hhelp h.toKnown, runWith, hlogger, hvalue]
  | error f => simp [run_of_known hhelp h.toKnown, runWith, hlogger, hvalue]

/-- **The way in which a run ends determines what it leaves behind.** -/
theorem run_of_ends {e : Ending} (h : Ends s arguments e) :
    ∃ logged, run s arguments = e.outcome logged := by
  cases h with
  | idle => exact ⟨"", rfl⟩
  | help hhelp arguments => exact ⟨"", by simp [run, hhelp, Ending.outcome]⟩
  | answered hready hcommand hgiven hanswer =>
    obtain ⟨logged, hrun⟩ := run_of_ready (isHelp_eq_false_of_requirements hcommand) hready
    rw [hrun, execute_of_answers hcommand hgiven hanswer]
    exact ⟨_, rfl⟩
  | @failed command arguments f hhelp hfault =>
    have hready : ∀ {o : Options} {settings : Settings}, Ready s arguments o settings →
        (execute settings.signature s.randomness command o).value = .error f →
        ∃ logged, run s (command :: arguments) = f.outcome logged := by
      intro o settings hready hexecute
      obtain ⟨logged, hrun⟩ := run_of_ready hhelp hready
      rw [hrun, hexecute]
      exact ⟨_, rfl⟩
    cases hfault with
    | options hoptions => exact ⟨"", by simp [run, hhelp, runCommand, hoptions, Ending.outcome]⟩
    | settings hoptions hsettings =>
      exact ⟨"", by simp [run, hhelp, runCommand, hoptions, hsettings, Ending.outcome]⟩
    | unknownCommand hknown hcommand =>
      exact hready hknown (congrArg Logged.value (execute_of_requirements_eq_none hcommand))
    | missingOption hknown hcommand hmissing =>
      exact hready hknown (congrArg Logged.value (execute_of_firstMissing hcommand hmissing))
    | refusal hknown hcommand hgiven hrefuses =>
      exact hready hknown (execute_of_refuses hcommand hgiven hrefuses)
  | @aborted command arguments o settings hhelp hknown hreadable =>
    rw [run_of_known hhelp hknown, runWith]
    dsimp only
    cases hlogger : (Log.Logger.ofSettings s.filter settings.logging).1 with
    | error cut => exact ⟨_, rfl⟩
    | ok logger => exact absurd ⟨logger, hlogger⟩ hreadable

theorem run_of_answered {json : Bool} {answer : Answer}
    (h : Ends s arguments (.answered json answer)) :
    (run s arguments).code = answer.code ∧ (run s arguments).stdout = answer.render json := by
  obtain ⟨logged, hrun⟩ := run_of_ends h
  rw [hrun]
  exact ⟨rfl, rfl⟩

/-- **Every run ends in one of these ways.** -/
theorem exists_ends (s : Surroundings) (arguments : List String) : ∃ e, Ends s arguments e := by
  cases arguments with
  | nil => exact ⟨_, .idle⟩
  | cons command arguments =>
    -- everything that can be wrong, in the order in which it counts
    cases hhelp : isHelp command with
    | true => exact ⟨_, .help hhelp arguments⟩
    | false =>
      cases hoptions : Options.parse arguments with
      | error f => exact ⟨_, .failed hhelp (.options hoptions)⟩
      | ok o =>
        cases hsettings : loadSettings s o with
        | error f => exact ⟨_, .failed hhelp (.settings hoptions hsettings)⟩
        | ok settings =>
          by_cases hreadable : Readable s settings
          · have hready : Ready s arguments o settings := ⟨⟨hoptions, hsettings⟩, hreadable⟩
            cases hcommand : requirements command with
            | none => exact ⟨_, .failed hhelp (.unknownCommand hready hcommand)⟩
            | some names =>
              obtain ⟨values, hgiven⟩ | ⟨name, hmissing⟩ := given_or_firstMissing o names
              · obtain ⟨answer, hanswer⟩ | ⟨f, hrefuses⟩ :=
                  answers_or_refuses settings.signature s.randomness hcommand hgiven
                · exact ⟨_, .answered hready hcommand hgiven hanswer⟩
                · exact ⟨_, .failed hhelp (.refusal hready hcommand hgiven hrefuses)⟩
              · exact ⟨_, .failed hhelp (.missingOption hready hcommand hmissing)⟩
          · exact ⟨_, .aborted hhelp ⟨hoptions, hsettings⟩ hreadable⟩

/-- With a switch for JSON before its options, a run answers the same. -/
theorem Ends.afterJson {command : String} {json : Bool} {answer : Answer}
    (h : Ends s (command :: arguments) (.answered json answer)) :
    Ends s (command :: "--json" :: arguments) (.answered true answer) := by
  cases h with
  | @answered _ _ names values o settings _ hready hcommand hgiven hanswer =>
    have hparsed : Options.parse ("--json" :: arguments) = .ok o.afterJson := by
      rw [Options.parse.eq_def]
      simp [hready.parsed, Except.map]
    -- the switch is no option, so the file of settings and the values are the same
    have hready' : Ready s ("--json" :: arguments) o.afterJson settings :=
      ⟨⟨hparsed, hready.loaded⟩, hready.readable⟩
    exact .answered hready' hcommand hgiven hanswer

/-- A filter of events that is fatal has white space in front of a directive. -/
theorem exists_isShifted_of_not_readable {settings : Settings} (h : ¬Readable s settings) :
    ∃ text, (s.filter = some text ∨ settings.logging.level = text) ∧
      ∃ part ∈ Log.Filter.parts text, Log.Directive.IsShifted part := by
  cases hfilter : (Log.Filter.choose s.filter settings.logging.level).filter with
  | error cut => exact Log.Filter.isShifted_of_choose hfilter
  | ok filter =>
    refine absurd ⟨⟨filter, settings.logging.format⟩, ?_⟩ h
    rw [Log.Logger.ofSettings]
    dsimp only
    rw [hfilter]
    rfl

end Run

/-! ## The contract -/

/-- An answer is no: a signature or a key is not valid. -/
def Answer.IsNo (a : Answer) : Prop := a = .signatureValid false ∨ a = .keyValid false

/-- The exit code of a run is the one of the way in which it ends. -/
theorem number_of_ends {s : Surroundings} {arguments : List String} {e : Ending}
    (h : Ends s arguments e) :
    (run s arguments).code.number =
      match e with
      | .idle => 2
      | .help => 0
      | .answered _ answer => answer.code.number
      | .failed _ => 2
      | .aborted => 101 := by
  obtain ⟨logged, hrun⟩ := run_of_ends h
  rw [hrun]
  cases e <;> rfl

theorem Answer.number_code_of_isNo {a : Answer} (h : a.IsNo) : a.code.number = 1 := by
  obtain rfl | rfl := h <;> rfl

theorem Answer.number_code_of_not_isNo {a : Answer} (h : ¬a.IsNo) : a.code.number = 0 := by
  cases a with
  | pair p => rfl
  | signature g => rfl
  | signatureValid b =>
    cases b with
    | true => rfl
    | false => exact absurd (.inl rfl) h
  | keyValid b =>
    cases b with
    | true => rfl
    | false => exact absurd (.inr rfl) h

/-- The exit codes, and how a run ends that has them. -/
theorem number_cases (s : Surroundings) (arguments : List String) :
    (run s arguments).code.number = 0 ∧ (Ends s arguments .help ∨
        ∃ json answer, Ends s arguments (.answered json answer) ∧ ¬answer.IsNo) ∨
      (run s arguments).code.number = 1 ∧
        (∃ json answer, Ends s arguments (.answered json answer) ∧ answer.IsNo) ∨
      (run s arguments).code.number = 2 ∧
        (arguments = [] ∨ ∃ f, Ends s arguments (.failed f)) ∨
      (run s arguments).code.number = 101 ∧ Ends s arguments .aborted := by
  obtain ⟨e, he⟩ := exists_ends s arguments
  have hnumber := number_of_ends he
  cases e with
  | idle =>
    cases he
    exact .inr (.inr (.inl ⟨hnumber, .inl rfl⟩))
  | help => exact .inl ⟨hnumber, .inl he⟩
  | answered json answer =>
    by_cases hno : answer.IsNo
    · exact .inr (.inl ⟨hnumber.trans (Answer.number_code_of_isNo hno), json, answer, he, hno⟩)
    · exact .inl ⟨hnumber.trans (Answer.number_code_of_not_isNo hno), .inr ⟨json, answer, he, hno⟩⟩
  | failed f => exact .inr (.inr (.inl ⟨hnumber, .inr ⟨f, he⟩⟩))
  | aborted => exact .inr (.inr (.inr ⟨hnumber, he⟩))

/-- What the program promises about the outcome of a run. -/
structure KeepsContract (s : Surroundings) (arguments : List String) (outcome : Outcome) :
    Prop where
  /-- The code is 0 for a request for help, and for every answer but a no. -/
  succeeded : outcome.code.number = 0 ↔
    Ends s arguments .help ∨ ∃ json answer, Ends s arguments (.answered json answer) ∧ ¬answer.IsNo
  /-- The code is 1 when the answer is no. -/
  refused : outcome.code.number = 1 ↔
    ∃ json answer, Ends s arguments (.answered json answer) ∧ answer.IsNo
  /-- The code is 2 when something is wrong, or nothing is asked for. -/
  failed : outcome.code.number = 2 ↔ arguments = [] ∨ ∃ f, Ends s arguments (.failed f)
  /-- The code is 101 when the filter of events is fatal. -/
  aborted : outcome.code.number = 101 ↔ Ends s arguments .aborted
  /-- There are no other codes, and 101 takes white space in front of a directive. -/
  finished : outcome.code.number ∈ [0, 1, 2] ∨
    outcome.code.number = 101 ∧ ∃ command rest o settings text, arguments = command :: rest ∧
      Known s rest o settings ∧ (s.filter = some text ∨ settings.logging.level = text) ∧
      ∃ part ∈ Log.Filter.parts text, Log.Directive.IsShifted part
  /-- What is wrong first is reported, and nothing else. -/
  reported : ∀ f, Ends s arguments (.failed f) →
    outcome.stdout = "" ∧ ∃ logged, outcome.stderr = logged ++ "Error: " ++ f.message ++ "\n"
  /-- With a source of randomness that works, a key pair is always made. -/
  generated : ∀ seed rest o settings, s.randomness = .ok seed → arguments = "keygen" :: rest →
    Ready s rest o settings → outcome.code.number = 0
  /-- An answer is written in the form that was asked for. -/
  written : ∀ json answer, Ends s arguments (.answered json answer) →
    if json then
      outcome.stdout.toList.head? = some '\x7b' ∧
        Shown.reader.runAll outcome.stdout = .ok answer.shown
    else outcome.stdout = answer.text ++ "\n"
  /-- The answer is the same in both forms. -/
  same : ∀ command rest answer, arguments = command :: rest →
    Ends s arguments (.answered false answer) →
      (run s (command :: "--json" :: rest)).code = outcome.code ∧
        Shown.reader.runAll (run s (command :: "--json" :: rest)).stdout = .ok answer.shown

/-- **The program keeps its promises**: its exit code says how a run ended, a fault is reported
where nothing that comes before it is wrong, and an answer is the same in both forms. -/
theorem run_keepsContract (s : Surroundings) (arguments : List String) :
    KeepsContract s arguments (run s arguments) := by
  have hcases := number_cases s arguments
  constructor
  case succeeded =>
    refine ⟨fun h ↦ ?_, ?_⟩
    · obtain ⟨-, hends⟩ | ⟨h', -⟩ | ⟨h', -⟩ | ⟨h', -⟩ := hcases
      · exact hends
      all_goals omega
    · rintro (h | ⟨json, answer, h, hno⟩)
      · exact number_of_ends h
      · exact (number_of_ends h).trans (Answer.number_code_of_not_isNo hno)
  case refused =>
    refine ⟨fun h ↦ ?_, ?_⟩
    · obtain ⟨h', -⟩ | ⟨-, hends⟩ | ⟨h', -⟩ | ⟨h', -⟩ := hcases
      on_goal 2 => exact hends
      all_goals omega
    · rintro ⟨json, answer, h, hno⟩
      exact (number_of_ends h).trans (Answer.number_code_of_isNo hno)
  case failed =>
    refine ⟨fun h ↦ ?_, ?_⟩
    · obtain ⟨h', -⟩ | ⟨h', -⟩ | ⟨-, hends⟩ | ⟨h', -⟩ := hcases
      on_goal 3 => exact hends
      all_goals omega
    · rintro (rfl | ⟨f, h⟩)
      · rfl
      · exact number_of_ends h
  case aborted =>
    refine ⟨fun h ↦ ?_, number_of_ends⟩
    obtain ⟨h', -⟩ | ⟨h', -⟩ | ⟨h', -⟩ | ⟨-, hends⟩ := hcases
    on_goal 4 => exact hends
    all_goals omega
  case finished =>
    obtain ⟨h, -⟩ | ⟨h, -⟩ | ⟨h, -⟩ | ⟨h, hends⟩ := hcases
    · exact .inl (by simp [h])
    · exact .inl (by simp [h])
    · exact .inl (by simp [h])
    · refine .inr ⟨h, ?_⟩
      cases hends with
      | @aborted command rest o settings hhelp hknown hreadable =>
        obtain ⟨text, htext, hshifted⟩ := exists_isShifted_of_not_readable hreadable
        exact ⟨command, rest, o, settings, text, rfl, hknown, htext, hshifted⟩
  case reported =>
    intro f h
    obtain ⟨logged, hrun⟩ := run_of_ends h
    rw [hrun]
    exact ⟨rfl, logged, rfl⟩
  case generated =>
    rintro seed rest o settings hseed rfl hready
    have hpair : (Signer.generateFromSystem s.randomness).value = .ok ⟨seed⟩ := by
      rw [hseed]
      rfl
    exact number_of_ends (.answered hready rfl .nil (.keygen hpair))
  case written =>
    intro json answer h
    rw [(run_of_answered h).2]
    cases json with
    | true => exact answer.runAll_render
    | false => rfl
  case same =>
    rintro command rest answer rfl h
    obtain ⟨hcode, hstdout⟩ := run_of_answered h.afterJson
    rw [hcode, hstdout]
    exact ⟨(run_of_answered h).1.symm, answer.runAll_render.2⟩

/-- White space in front of a directive is enough for a run to be aborted, although nothing is wrong
with what is asked of it: the answer would be no. -/
theorem run_shiftedFilter :
    let s : Surroundings := { filter := some " é=debug", noColor := none
                              contentOf := fun _ ↦ .error .notFound
                              randomness := .ok (Octets.ofNat 32 1), time := ""
                              whereabouts := ⟨1, fun _ ↦ "", none⟩ }
    (run s ["check-key", "--public-key", "00"]).code.number ∉ [0, 1, 2] ∧
      Signer.validatePublicKey "00" = false := by
  decide +kernel

end HexSigner.Command
