import HexSigner.Proofs.Command.Outcome

/-!
# Logging does not change an answer

What is logged depends on the filter of events, the format, the colours, the time, and on whether a
rejected signature is explained.  None of it has a part in the exit code or in the first text of a
run, and the log is only ever put in front of the second text.

So two runs that differ in their logging alone (`SameButLogging`) come to one outcome, each with its
own log put in front (`Outcome.after`).  This outcome is the one that `quiet` computes, which does
not know of logging; that it is the same for both is the fact that the signer's verdict does not
depend on whether it is explained (`value_execute_congr`).

A filter that is fatal is the exception (`answer_apart_from_logging`): it ends a run that would have
answered (`run_shiftedFilter_only`).
-/

set_option autoImplicit false

namespace HexSigner

/-- Whether a signature is valid does not depend on whether a rejection is explained. -/
theorem Signer.value_verify (settings : SignatureSettings) (publicKey signature digest : String) :
    (verify settings publicKey signature digest).value =
      (check settings.verification publicKey signature digest).toBool := by
  rw [verify]
  split
  · next h => rw [h]; rfl
  · next h => rw [h]; rfl

namespace Command

/-! ## Logs -/

/-- What is logged when some events occur: the warnings about the filter, and the lines of the
events that the filter selects or, if it is fatal, the last words of the run. -/
def logText (s : Surroundings) (logging : LogSettings) (events : List Log.Event) : String :=
  let chosen := Log.Logger.ofSettings s.filter logging
  String.join (chosen.2.map (· ++ "\n")) ++
    match chosen.1 with
    | .error cut => s.whereabouts.lastWords cut
    | .ok logger => logger.write s.coloured s.time events

/-- What a run has logged in the end.  Nothing is logged before the settings are known. -/
inductive HasLogged (s : Surroundings) : List String → String → Prop
  | nothing {arguments : List String}
      (h : ∀ command rest o settings, arguments = command :: rest → isHelp command = false →
        ¬Known s rest o settings) :
    HasLogged s arguments ""
  | log {command : String} {rest : List String} {o : Options} {settings : Settings}
      (hhelp : isHelp command = false) (hknown : Known s rest o settings)
      (events : List Log.Event) :
    HasLogged s (command :: rest) (logText s settings.logging events)

/-- An outcome with a log in front of the second text. -/
def Outcome.after (logged : String) (q : Outcome) : Outcome where
  code := q.code
  stdout := q.stdout
  stderr := logged ++ q.stderr

theorem Outcome.after_empty (q : Outcome) : q.after "" = q := by
  rw [after, String.empty_append]

/-- What comes of a command, apart from the log. -/
def quiet (settings : SignatureSettings) (randomness : Except String (Octets 32))
    (command : String) (o : Options) : Outcome :=
  match (execute settings randomness command o).value with
  | .error f => f.outcome ""
  | .ok answer => ⟨answer.code, answer.render o.json, ""⟩

theorem Fault.outcome_eq_after (f : Fault) (logged : String) :
    f.outcome logged = (f.outcome "").after logged := by
  simp [outcome, Outcome.after, String.append_assoc]

/-- **Nothing but the policy has a part in what a command answers.** -/
theorem value_execute_congr {settings settings' : SignatureSettings}
    (h : settings.verification = settings'.verification) (randomness : Except String (Octets 32))
    (command : String) (o : Options) :
    (execute settings randomness command o).value =
      (execute settings' randomness command o).value := by
  rw [execute.eq_def]
  split
  · rw [execute]
  · rw [execute]
  · -- the only command that looks at the settings
    rw [execute]
    cases required o "public-key" with
    | error f => simp only [bind, Except.bind, Logged.ofExcept]
    | ok key =>
      cases required o "signature" with
      | error f => simp only [bind, Except.bind, Logged.ofExcept]
      | ok signature =>
        cases required o "digest" with
        | error f => simp only [bind, Except.bind, Logged.ofExcept]
        | ok digest =>
          simp only [bind, Except.bind, pure, Except.pure, Logged.ofExcept, Signer.value_verify, h]
  · rw [execute]
  · next hkeygen hsign hverify hcheck => rw [execute] <;> assumption

section Run

variable {s : Surroundings} {command : String} {rest : List String} {o : Options}
  {settings : Settings}

variable (command o) in
/-- A run that is ready ends as its command does, with the log in front. -/
theorem runWith_of_readable (h : Readable s settings) :
    ∃ events, runWith s settings command o =
      (quiet settings.signature s.randomness command o).after
        (logText s settings.logging (startEvent command :: events)) := by
  obtain ⟨logger, hlogger⟩ := h
  refine ⟨(execute settings.signature s.randomness command o).events, ?_⟩
  rw [runWith, quiet]
  dsimp only
  rw [hlogger]
  dsimp only
  cases (execute settings.signature s.randomness command o).value with
  | error f =>
    simp only [logText, hlogger]
    rw [f.outcome_eq_after]
  | ok answer => simp only [logText, hlogger, Outcome.after, String.append_empty]

theorem runWith_of_not_readable (h : ¬Readable s settings) :
    runWith s settings command o = ⟨.aborted, "", logText s settings.logging []⟩ := by
  rw [runWith, logText]
  dsimp only
  cases hlogger : (Log.Logger.ofSettings s.filter settings.logging).1 with
  | error cut => rfl
  | ok logger => exact absurd ⟨logger, hlogger⟩ h

/-! ## Two runs -/

/-- Two runs that differ in their logging alone.  They have the same randomness, and with the same
arguments both find settings, with the same policy. -/
structure SameButLogging (s s' : Surroundings) (arguments : List String) : Prop where
  randomness : s.randomness = s'.randomness
  settings : ∀ command rest o, arguments = command :: rest → Options.parse rest = .ok o →
    ∃ settings settings', loadSettings s o = .ok settings ∧ loadSettings s' o = .ok settings' ∧
      settings.signature.verification = settings'.signature.verification

/-- In one of the filters that a run is given, a part has white space in front and a character of
more than one byte. -/
def HasShiftedFilter (s : Surroundings) (arguments : List String) : Prop :=
  ∃ command rest o settings text, arguments = command :: rest ∧ Known s rest o settings ∧
    (s.filter = some text ∨ settings.logging.level = text) ∧
      ∃ part ∈ Log.Filter.parts text, Log.Directive.IsShifted part

/-- A run comes to an outcome, with its log in front of the second text, unless it is aborted. -/
def ComesTo (s : Surroundings) (arguments : List String) (q : Outcome) : Prop :=
  ∃ logged, HasLogged s arguments logged ∧
    (run s arguments = q.after logged ∨
      HasShiftedFilter s arguments ∧ run s arguments = ⟨.aborted, "", logged⟩)

variable (command) in
theorem comesTo_of_known (hhelp : isHelp command = false) (h : Known s rest o settings) :
    ComesTo s (command :: rest) (quiet settings.signature s.randomness command o) := by
  have hrun := run_of_known hhelp h
  by_cases hreadable : Readable s settings
  · obtain ⟨events, hevents⟩ := runWith_of_readable command o hreadable
    exact ⟨_, .log hhelp h _, .inl (hrun.trans hevents)⟩
  · obtain ⟨text, htext, hshifted⟩ := exists_isShifted_of_not_readable hreadable
    exact ⟨_, .log hhelp h [], .inr ⟨⟨command, rest, o, settings, text, rfl, h, htext, hshifted⟩,
      hrun.trans (runWith_of_not_readable hreadable)⟩⟩

/-- Where nothing is logged, the outcome is what the run comes to. -/
theorem comesTo_of_unknown {arguments : List String} {q : Outcome} (hrun : run s arguments = q)
    (h : ∀ command rest o settings, arguments = command :: rest → isHelp command = false →
      ¬Known s rest o settings) :
    ComesTo s arguments q :=
  ⟨"", .nothing h, .inl (hrun.trans q.after_empty.symm)⟩

/-- **Two runs that differ in their logging alone come to the same.** -/
theorem exists_comesTo {s s' : Surroundings} {arguments : List String}
    (h : SameButLogging s s' arguments) :
    ∃ q, ComesTo s arguments q ∧ ComesTo s' arguments q := by
  cases arguments with
  | nil => exact ⟨_, comesTo_of_unknown rfl nofun, comesTo_of_unknown rfl nofun⟩
  | cons command rest =>
    cases hhelp : isHelp command with
    | true =>
      have hnot : ∀ (s : Surroundings) c r o settings, command :: rest = c :: r →
          isHelp c = false → ¬Known s r o settings := by
        rintro s c r o settings hargs hc -
        rw [← (List.cons.inj hargs).1, hhelp] at hc
        cases hc
      have hrun : ∀ s, run s (command :: rest) = ⟨.success, usage, ""⟩ := fun s ↦ by
        simp [run, hhelp]
      exact ⟨_, comesTo_of_unknown (hrun s) (hnot s), comesTo_of_unknown (hrun s') (hnot s')⟩
    | false =>
      cases hparse : Options.parse rest with
      | error f =>
        have hnot : ∀ (s : Surroundings) c r o settings, command :: rest = c :: r →
            isHelp c = false → ¬Known s r o settings := by
          rintro s c r o settings hargs - hknown
          obtain ⟨-, rfl⟩ := List.cons.inj hargs
          cases hparse.symm.trans hknown.parsed
        have hrun : ∀ s, run s (command :: rest) = Fault.outcome "" (.options f) := fun s ↦ by
          simp [run, hhelp, runCommand, hparse]
        exact ⟨_, comesTo_of_unknown (hrun s) (hnot s), comesTo_of_unknown (hrun s') (hnot s')⟩
      | ok o =>
        obtain ⟨settings, settings', hload, hload', hpolicy⟩ := h.settings _ _ o rfl hparse
        have hcomes := comesTo_of_known command hhelp ⟨hparse, hload⟩
        have hcomes' := comesTo_of_known command hhelp ⟨hparse, hload'⟩
        rw [quiet, value_execute_congr hpolicy, h.randomness] at hcomes
        exact ⟨_, hcomes, hcomes'⟩

end Run

/-- **Logging does not change an answer.**  Two runs that differ in their logging alone have the
same exit code and the same first text, unless one of them is aborted, which takes white space in
front of a part of a filter and leaves the first text empty.  Whatever is logged is in the second
text, where the two runs agree about the rest. -/
theorem answer_apart_from_logging {s s' : Surroundings} {arguments : List String}
    (h : SameButLogging s s' arguments) :
    (¬HasShiftedFilter s arguments → ¬HasShiftedFilter s' arguments →
      (run s arguments).code = (run s' arguments).code ∧
        (run s arguments).stdout = (run s' arguments).stdout) ∧
    ∃ q, ComesTo s arguments q ∧ ComesTo s' arguments q := by
  obtain ⟨q, hq, hq'⟩ := exists_comesTo h
  refine ⟨fun hfilter hfilter' ↦ ?_, q, hq, hq'⟩
  obtain ⟨logged, -, hrun | ⟨hshifted, -⟩⟩ := hq
  · obtain ⟨logged', -, hrun' | ⟨hshifted', -⟩⟩ := hq'
    · rw [hrun, hrun']
      exact ⟨rfl, rfl⟩
    · exact absurd hshifted' hfilter'
  · exact absurd hshifted hfilter

/-! ### A loud run and a silent one -/

theorem eq_ok_of_toOption {ε α : Type} {x : Except ε α} {a : α} (h : x.toOption = some a) :
    x = .ok a := by
  cases x with
  | error e => cases h
  | ok b => rw [Option.some.inj h]

section Cases

variable {s s' : Surroundings} {command : String} {rest : List String} {o : Options}
  {settings settings' : Settings}

theorem SameButLogging.of_known (hrandom : s.randomness = s'.randomness)
    (h : Known s rest o settings)
    (h' : Known s' rest o settings')
    (hpolicy : settings.signature.verification = settings'.signature.verification) :
    SameButLogging s s' (command :: rest) where
  randomness := hrandom
  settings := by
    intro c r o' hargs hparse
    obtain ⟨-, rfl⟩ := List.cons.inj hargs
    rw [h.parsed, Except.ok.injEq] at hparse
    subst hparse
    exact ⟨settings, settings', h.loaded, h'.loaded, hpolicy⟩

/-- Where all characters of the filters are single bytes, nothing is shifted. -/
theorem not_hasShiftedFilter_of_ascii (h : Known s rest o settings)
    (hascii : ∀ text ∈ settings.logging.level :: s.filter.toList,
      ∀ part ∈ Log.Filter.parts text, part.toList.all fun c ↦ c.utf8Size ≤ 1) :
    ¬HasShiftedFilter s (command :: rest) := by
  rintro ⟨c, r, o', settings', text, hargs, hknown, htext, part, hpart, -, d, hd, hsize⟩
  obtain ⟨-, rfl⟩ := List.cons.inj hargs
  obtain rfl := Except.ok.inj (h.parsed.symm.trans hknown.parsed)
  obtain rfl := Except.ok.inj (h.loaded.symm.trans hknown.loaded)
  have hmem : text ∈ settings.logging.level :: s.filter.toList := by
    obtain hfilter | rfl := htext
    · rw [hfilter]
      exact List.mem_cons_of_mem _ List.mem_cons_self
    · exact List.mem_cons_self
  have hd := List.all_eq_true.mp (hascii text hmem part hpart) d hd
  exact absurd (of_decide_eq_true hd) (Nat.not_le.mpr hsize)

end Cases

/-- A run in which the filter of the environment is wrong, and the one of the settings in part. -/
def loudRun : Surroundings where
  filter := some "=x"
  noColor := none
  contentOf := fun _ ↦ .ok (Text.utf8 "logging = \x7blevel = \"debug,a=b\", format = \"json\"\x7d")
  randomness := .ok (Octets.ofNat 32 1)
  time := "now"
  whereabouts := ⟨1, fun _ ↦ "", none⟩

/-- A run in which nothing is logged. -/
def silentRun : Surroundings where
  filter := some "off"
  noColor := some "1"
  contentOf := fun _ ↦ .ok (Text.utf8 "signature = \x7bdiagnostics = false\x7d")
  randomness := .ok (Octets.ofNat 32 1)
  time := "later"
  whereabouts := ⟨2, fun _ ↦ "", none⟩

/-- Some arguments for a signature that is not valid. -/
def loudArguments : List String :=
  ["verify", "--public-key", "00", "--signature", "", "--digest", "", "--config", "settings"]

/-- The loud run and the silent run have the same answer, although what they log differs. -/
theorem answer_apart_from_logging_loud :
    SameButLogging loudRun silentRun loudArguments ∧
    ¬HasShiftedFilter loudRun loudArguments ∧ ¬HasShiftedFilter silentRun loudArguments ∧
    (run loudRun loudArguments).code = (run silentRun loudArguments).code ∧
    (run loudRun loudArguments).stdout = (run silentRun loudArguments).stdout ∧
    (run loudRun loudArguments).stderr ≠ (run silentRun loudArguments).stderr := by
  have hparse : Options.parse loudArguments.tail = .ok ⟨[("config", "settings"), ("digest", ""),
      ("signature", ""), ("public-key", "00")], false⟩ := eq_ok_of_toOption (by decide +kernel)
  have hloud : Known loudRun loudArguments.tail _ ⟨⟨"debug,a=b", .json⟩, ⟨.standard, true⟩⟩ :=
    ⟨hparse, eq_ok_of_toOption (by decide +kernel)⟩
  have hsilent : Known silentRun loudArguments.tail _ ⟨⟨"info", .text⟩, ⟨.standard, false⟩⟩ :=
    ⟨hparse, eq_ok_of_toOption (by decide +kernel)⟩
  have hsame : SameButLogging loudRun silentRun loudArguments := .of_known rfl hloud hsilent rfl
  have hfilter : ¬HasShiftedFilter loudRun loudArguments :=
    not_hasShiftedFilter_of_ascii hloud (by decide +kernel)
  have hfilter' : ¬HasShiftedFilter silentRun loudArguments :=
    not_hasShiftedFilter_of_ascii hsilent (by decide +kernel)
  obtain ⟨hcode, hstdout⟩ := (answer_apart_from_logging hsame).1 hfilter hfilter'
  exact ⟨hsame, hfilter, hfilter', hcode, hstdout, by decide +kernel⟩

/-- A filter alone decides that a run is aborted: without the filter it answers no. -/
theorem run_shiftedFilter_only :
    let s : Surroundings := { filter := some " ü=trace", noColor := none
                              contentOf := fun _ ↦ .error .notFound
                              randomness := .ok (Octets.ofNat 32 1), time := ""
                              whereabouts := ⟨1, fun _ ↦ "", none⟩ }
    let s' : Surroundings := { s with filter := none }
    let arguments := ["check-key", "--public-key", "00", "--json"]
    SameButLogging s s' arguments ∧
      (run s arguments).code = .aborted ∧ (run s' arguments).code = .refused ∧
      (run s arguments).stdout ≠ (run s' arguments).stdout := by
  have hparse : Options.parse ["--public-key", "00", "--json"] =
      .ok ⟨[("public-key", "00")], true⟩ := eq_ok_of_toOption (by decide +kernel)
  refine ⟨.of_known rfl ⟨hparse, rfl⟩ ⟨hparse, rfl⟩ rfl, ?_⟩
  decide +kernel

end Command

end HexSigner
