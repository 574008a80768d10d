import HexSigner.Proofs.Command.Logging
import HexSigner.Proofs.Log.Lines

/-!
# The log of a verification

A run that shows all events down to the level `debug`, in JSON, says what happened in it: that the
signer is ready, and what the signer had to tell.  For a verification this is one event if the
signature is rejected, with the reason, and none otherwise.

The reason may quote the texts that were given, and these may hold anything.  It cannot break out of
its line: the log is taken apart into as many lines as there were events, and the reason is read from
the second one as it was (`verify_log_faithful`).
-/

set_option autoImplicit false

namespace HexSigner

namespace Log.Filter

/-- The filter that lets everything pass down to the level `debug`, wherever it comes from. -/
def debug : Filter := ⟨[⟨none, none, none, some .debug⟩]⟩

theorem choose_debug : choose none "debug" = ⟨.ok debug, []⟩ := rfl

theorem passes_debug (target : String) (fields : Option (List String)) (level : Level) :
    debug.passes target fields level = decide (level.rank ≤ Level.debug.rank) := by
  cases fields <;> rfl

/-- Events pass as they are, with the operation that they occurred in. -/
theorem select_debug {e : Event} (h : e.level.rank ≤ Level.debug.rank) :
    debug.select e = some e := by
  have hevent : debug.showsEvent e = true := by
    rw [showsEvent, passes_debug, decide_eq_true h, Bool.or_true]
  have hoperation : ∀ o, debug.showsOperation o = true := by
    intro o
    rw [showsOperation, operationLevel, passes_debug, decide_eq_true (Nat.le_refl _), Bool.or_true]
  have hspan : e.span.filter debug.showsOperation = e.span := by
    cases e.span with
    | none => rfl
    | some o => rw [Option.filter_some, if_pos (hoperation o)]
  rw [select, if_pos hevent, hspan]

end Log.Filter

namespace Command

open Document Log

section Run

variable {s : Surroundings} {rest : List String} {o : Options} {settings : Settings}

/-- **At the level `debug` a run says all that happened in it.** -/
theorem run_says {command : String} {answer : Answer} {events : List Event}
    (hhelp : isHelp command = false)
    (hknown : Known s rest o settings) (hfilter : s.filter = none)
    (hlogging : settings.logging = ⟨"debug", .json⟩)
    (hexecute : execute settings.signature s.randomness command o = ⟨.ok answer, events⟩)
    (hlevel : ∀ e ∈ events, e.level.rank ≤ Level.debug.rank) :
    (run s (command :: rest)).code = answer.code ∧
      Says (run s (command :: rest)).stderr
        ((startEvent command :: events).map (Event.tree s.time)) := by
  have hselected : (startEvent command :: events).filterMap Filter.debug.select =
      startEvent command :: events := by
    rw [List.filterMap_congr (g := some), List.filterMap_some]
    rw [List.forall_mem_cons]
    exact ⟨Filter.select_debug (Nat.le_refl _), fun e he ↦ Filter.select_debug (hlevel e he)⟩
  have hsays := Logger.says_write (l := ⟨.debug, .json⟩) rfl s.coloured s.time
    (startEvent command :: events)
  rw [hselected] at hsays
  have hlogger : Logger.ofSettings s.filter settings.logging = (.ok ⟨.debug, .json⟩, []) := by
    simp only [Logger.ofSettings, hfilter, hlogging, Filter.choose_debug, Except.map]
  rw [run_of_known hhelp hknown, runWith, hlogger]
  dsimp only
  rw [hexecute]
  exact ⟨rfl, by simpa using hsays⟩

end Run

/-! ## Verifications -/

/-- That the signer is ready for a verification. -/
def readyTree (time : String) : Tree :=
  .table [("timestamp", .text time), ("level", .text "DEBUG"),
    ("fields", .table [("message", .text "provider initialised"), ("scheme", .text "Ed25519"),
      ("command", .text "verify")]),
    ("target", .text "asymsig_cli"), ("threadId", .text "ThreadId(1)")]

/-- That a signature is rejected, and for which reason. -/
def rejectedTree (time reason : String) : Tree :=
  .table [("timestamp", .text time), ("level", .text "DEBUG"),
    ("fields", .table [("message", .text "signature rejected"), ("reason", .text reason)]),
    ("target", .text "asymsig_crypto::provider"), ("span", .table [("name", .text "verify")]),
    ("spans", .list [.table [("name", .text "verify")]]), ("threadId", .text "ThreadId(1)")]

section Verify

variable {s : Surroundings} {rest : List String} {o : Options} {settings : Settings}
  {key signature digest : String}

/-- **The log of a verification cannot be forged.**  Let a run show all events down to the level
`debug`, in JSON and with an explanation of what is rejected, and let it verify a signature.  The
key, the signature and the digest may be any texts at all.

* If the signature is valid, the log has one line, which says that the signer is ready.
* If it is not valid, the log has one more line.  It says that the signature is rejected, and the
  reason in it is the wording of the rejection that occurred.

Each line is one object of JSON, which can be decoded in one way only. -/
theorem verify_log_faithful (hknown : Known s rest o settings) (hfilter : s.filter = none)
    (hlogging : settings.logging = ⟨"debug", .json⟩)
    (hdiagnostics : settings.signature.diagnostics = true)
    (hgiven : Given o ["public-key", "signature", "digest"] [key, signature, digest]) :
    ((Signer.verify settings.signature key signature digest).value = true →
      (run s ("verify" :: rest)).code = .success ∧
        ∀ ts, Says (run s ("verify" :: rest)).stderr ts ↔ ts = [readyTree s.time]) ∧
    ((Signer.verify settings.signature key signature digest).value = false →
      (run s ("verify" :: rest)).code = .refused ∧
        ∃ r, Signer.check settings.signature.verification key signature digest = .error r ∧
          (rejectedTree s.time r.message).at? ["fields", "reason"] = some (.text r.message) ∧
          ∀ ts, Says (run s ("verify" :: rest)).stderr ts ↔
            ts = [readyTree s.time, rejectedTree s.time r.message]) := by
  have hexecute := execute_verify settings.signature s.randomness hgiven
  cases hcheck : Signer.check settings.signature.verification key signature digest with
  | ok =>
    have hverify : Signer.verify settings.signature key signature digest = ⟨true, []⟩ := by
      rw [Signer.verify, hcheck]
    rw [hverify] at hexecute ⊢
    obtain ⟨hcode, hsays⟩ := run_says rfl hknown hfilter hlogging hexecute (List.forall_mem_nil _)
    exact ⟨fun _ ↦ ⟨hcode, fun _ ↦ hsays.says_iff⟩, fun h ↦ absurd h.symm Bool.false_ne_true⟩
  | error r =>
    have hverify : Signer.verify settings.signature key signature digest =
        ⟨false, [Signer.event "verify" "signature rejected" "reason" r.message]⟩ := by
      rw [Signer.verify, hcheck, hdiagnostics]
      rfl
    rw [hverify] at hexecute ⊢
    obtain ⟨hcode, hsays⟩ := run_says rfl hknown hfilter hlogging hexecute
      (List.forall_mem_singleton.mpr (Nat.le_refl _))
    exact ⟨fun h ↦ absurd h Bool.false_ne_true,
      fun _ ↦ ⟨hcode, r, rfl, rfl, fun _ ↦ hsays.says_iff⟩⟩

end Verify

/-- A run in which the file of settings asks for all events, in JSON. -/
def verboseRun : Surroundings where
  filter := none
  noColor := none
  contentOf := fun _ ↦ .ok (Text.utf8 "logging = \x7blevel = \"debug\", format = \"json\"\x7d")
  randomness := .ok (Octets.ofNat 32 1)
  time := "now"
  whereabouts := ⟨1, fun _ ↦ "", none⟩

/-- A key that starts with a line break is quoted with an escape, and that escape is escaped again.
What is decoded is the escape that the reason has. -/
theorem verify_log_faithful_lineBreak :
    let arguments := ["--public-key", "\n\"", "--signature", "", "--digest", "", "--config", "file"]
    (run verboseRun ("verify" :: arguments)).code = .refused ∧
      ∀ ts, Says (run verboseRun ("verify" :: arguments)).stderr ts ↔
        ts = [readyTree "now", rejectedTree "now"
          ("malformed public key: Invalid key format: public key is not valid hex: " ++
            "Invalid input format: invalid hex character '\\n' at index 0")] := by
  have hparse : Options.parse
      ["--public-key", "\n\"", "--signature", "", "--digest", "", "--config", "file"] =
        .ok ⟨[("config", "file"), ("digest", ""), ("signature", ""), ("public-key", "\n\"")],
          false⟩ :=
    eq_ok_of_toOption (by decide +kernel)
  have hknown : Known verboseRun _ _ ⟨⟨"debug", .json⟩, ⟨.standard, true⟩⟩ :=
    ⟨hparse, eq_ok_of_toOption (by decide +kernel)⟩
  have hevents : (Signer.verify ⟨.standard, true⟩ "\n\"" "" "").events =
      [Signer.event "verify" "signature rejected" "reason"
        ("malformed public key: Invalid key format: public key is not valid hex: " ++
          "Invalid input format: invalid hex character '\\n' at index 0")] := by
    decide +kernel
  obtain ⟨hcode, r, hcheck, -, hsays⟩ :=
    (verify_log_faithful hknown rfl rfl rfl (.cons rfl (.cons rfl (.cons rfl .nil)))).2
      (by decide +kernel)
  rw [Signer.verify, hcheck] at hevents
  simp only [if_true, Signer.event, List.cons.injEq, Log.Event.mk.injEq, Log.Field.mk.injEq,
    and_true, true_and] at hevents
  exact ⟨hcode, hevents ▸ hsays⟩

end Command

end HexSigner
