import HexSigner.Session
import Mathlib.Data.List.Basic

/-!
# Who draws from the source of randomness

All signers of a session draw from one script: the first one, its copies, and those that replace it
with other settings.  A draw that is lost, or made twice, would give two key pairs the same seed, or
skip one; whether that happens may depend on the order in which the signers take their steps and on
which of them fail.

So the steps are taken here by any signers in any order.  What tells the signers of a session apart
is their settings only, so `runEach` gives each step the settings of the signer that takes it; a
session with one signer is the case in which every step hands its settings on (`runEach_turns`).

* `Takes` says what one step does to the script and to the two lists, given its answer;
* `Accounts` says the same of all steps of a run, in terms of the script at the start;
* `draws_in_order` — the main result: the draws are taken in order, one for each step that generates
  a key pair and none for any other step, and the lists hold what the steps answered.
-/

set_option autoImplicit false

namespace HexSigner.Session

/-! ## What is drawn and what is made -/

/-- Whether a step generates a key pair. -/
def Step.generates : Step → Bool
  | .generate => true
  | _ => false

/-- How many of some steps generate a key pair. -/
def draws (steps : List Step) : Nat := steps.countP Step.generates

/-- The draw at a place of a script, which is a failure past its end. -/
def drawAt (script : List Draw) (place : Nat) : Draw := script[place]?.getD (.error exhausted)

/-- What generating a key pair answers to a draw: the pair with that seed, or that very failure. -/
def answerTo : Draw → Answer
  | .ok seed => .pair ⟨seed⟩
  | .error f => .failed f

/-- The key that a step makes: what it answers, if it generates or parses a key and succeeds. -/
def keysMade : Step × Answer → List StoredKey
  | (.generate, .pair p) => [.pair p]
  | (.parse _, .publicKey k) => [.parsed k]
  | _ => []

/-- The signature that a step makes: what it answers, if it signs and succeeds. -/
def signaturesMade : Step × Answer → List Signature
  | (.sign _ _, .signature g) => [g]
  | _ => []

/-- Whether an answer says that the step failed. -/
def Answer.IsFailure (answer : Answer) : Prop := (∃ f, answer = .failed f) ∨ answer = .noSuchEntry

theorem draws_cons (action : Step) (steps : List Step) :
    draws (action :: steps) = draws [action] + draws steps := by
  rw [draws, draws, draws, ← List.countP_append, List.singleton_append]

theorem drawAt_drop (script : List Draw) (m n : Nat) :
    drawAt (script.drop m) n = drawAt script (m + n) := by
  rw [drawAt, drawAt, List.getElem?_drop]

theorem takeDraw_eq (script : List Draw) : takeDraw script = (drawAt script 0, script.drop 1) := by
  cases script <;> rfl

theorem Answer.IsFailure.keysMade_eq {answer : Answer} (h : answer.IsFailure) (action : Step) :
    keysMade (action, answer) = [] := by
  obtain ⟨f, rfl⟩ | rfl := h <;> cases action <;> rfl

theorem Answer.IsFailure.signaturesMade_eq {answer : Answer} (h : answer.IsFailure)
    (action : Step) : signaturesMade (action, answer) = [] := by
  obtain ⟨f, rfl⟩ | rfl := h <;> cases action <;> rfl

/-! ## One step -/

/-- What a step does to the script and to the lists, given its answer. -/
structure Takes (s s' : State) (action : Step) (answer : Answer) : Prop where
  script : s'.script = s.script.drop (draws [action])
  generate : action = .generate → answer = answerTo (drawAt s.script 0)
  keys : s'.keys = s.keys ++ keysMade (action, answer)
  signatures : s'.signatures = s.signatures ++ signaturesMade (action, answer)

/-- A step that draws nothing and makes nothing. -/
theorem Takes.of_same {s : State} {action : Step} {answer : Answer}
    (haction : action.generates = false) (hkeys : keysMade (action, answer) = [])
    (hsignatures : signaturesMade (action, answer) = []) : Takes s s action answer where
  script := by rw [draws, List.countP_singleton, haction]; rfl
  generate := by
    rintro rfl
    cases haction
  keys := by rw [hkeys, List.append_nil]
  signatures := by rw [hsignatures, List.append_nil]

/-- Comparing makes nothing. -/
theorem compare_cases {α : Type} [DecidableEq α] (a b : Option α) :
    compare a b = .noSuchEntry ∨ ∃ equal distinct, compare a b = .same equal distinct := by
  rw [compare.eq_def]
  split
  · split
    · exact .inr ⟨_, _, rfl⟩
    · exact .inr ⟨_, _, rfl⟩
  · exact .inl rfl

/-- **Generating takes one draw**, whether it succeeds or not, and no other step takes any. -/
theorem takes_step (s : State) (action : Step) :
    Takes s (step s action).1 action (step s action).2.1 := by
  cases action with
  | configure settings => exact ⟨rfl, nofun, (List.append_nil _).symm, (List.append_nil _).symm⟩
  | clone => exact .of_same rfl rfl rfl
  | generate =>
    simp only [step, takeDraw_eq]
    cases hdraw : drawAt s.script 0 with
    | error f =>
      exact ⟨rfl, fun _ ↦ by rw [hdraw]; rfl, (List.append_nil _).symm, (List.append_nil _).symm⟩
    | ok seed => exact ⟨rfl, fun _ ↦ by rw [hdraw]; rfl, rfl, (List.append_nil _).symm⟩
  | parse key =>
    simp only [step]
    split
    · exact .of_same rfl rfl rfl
    · split
      · exact .of_same rfl rfl rfl
      · exact ⟨rfl, nofun, rfl, (List.append_nil _).symm⟩
  | validate key =>
    simp only [step]
    split <;> exact .of_same rfl rfl rfl
  | sign key digest =>
    simp only [step]
    split
    · exact .of_same rfl rfl rfl
    · split
      · exact .of_same rfl rfl rfl
      · exact ⟨rfl, nofun, (List.append_nil _).symm, rfl⟩
  | verify key signature flip digest =>
    simp only [step]
    split <;> exact .of_same rfl rfl rfl
  | sameKey a b =>
    simp only [step]
    obtain h | ⟨_, _, h⟩ := compare_cases (s.keys[a]?.map fun k ↦ k.publicKey.bytes)
      (s.keys[b]?.map fun k ↦ k.publicKey.bytes) <;> rw [h] <;> exact .of_same rfl rfl rfl
  | sameSignature a b =>
    simp only [step]
    obtain h | ⟨_, _, h⟩ := compare_cases s.signatures[a]? s.signatures[b]? <;> rw [h] <;>
      exact .of_same rfl rfl rfl

/-! ## Runs -/

/-- Takes steps one after the other, each with the settings of the signer that takes it.  The
script and the lists are those of the session, whichever signer it is. -/
def runEach (s : State) : List (SignatureSettings × Step) → List (State × Report)
  | [] => []
  | (settings, action) :: rest =>
    let (next, answer, events) := step { s with settings } action
    (next, report next answer events) :: runEach next rest

/-- The steps of a session, each with the settings that the session has when it comes to it. -/
def turns (s : State) : List Step → List (SignatureSettings × Step)
  | [] => []
  | action :: rest => (s.settings, action) :: turns (step s action).1 rest

theorem map_snd_turns (s : State) (steps : List Step) : (turns s steps).map Prod.snd = steps := by
  induction steps generalizing s with
  | nil => rfl
  | cons action rest ih => rw [turns, List.map_cons, ih]

/-- A session with one signer is one whose steps hand the settings on. -/
theorem runEach_turns (s : State) (steps : List Step) :
    runEach s (turns s steps) = run s steps := by
  induction steps generalizing s with
  | nil => rfl
  | cons action rest ih =>
    rw [turns, runEach, run]
    dsimp only
    rw [ih]

/-- What the steps of a run do to the script and to the lists.  In every field, `s` is the state
after the step at place `n`, and `r` is what is observed of that step. -/
structure Accounts (start : State) (steps : List Step) (observed : List (State × Report)) :
    Prop where
  length_eq : observed.length = steps.length
  /-- As many draws are used up as there were steps that generate a key pair, as long as there are
  draws. -/
  consumed : ∀ n s r, observed[n]? = some (s, r) →
    r.scriptLeft + min (draws (steps.take (n + 1))) start.script.length = start.script.length
  /-- They are used up from the front. -/
  script : ∀ n s r, observed[n]? = some (s, r) →
    s.script = start.script.drop (draws (steps.take (n + 1)))
  /-- A step that generates a key pair answers to the draw whose place is the number of such steps
  before it. -/
  generate : ∀ n s r, observed[n]? = some (s, r) → steps[n]? = some .generate →
    r.answer = answerTo (drawAt start.script (draws (steps.take n)))
  /-- The keys are those that steps generated or parsed, in their order. -/
  keys : ∀ n s r, observed[n]? = some (s, r) →
    s.keys = start.keys ++
      ((steps.zip (observed.map fun x ↦ x.2.answer)).take (n + 1)).flatMap keysMade
  /-- The signatures are those that steps made, in their order. -/
  signatures : ∀ n s r, observed[n]? = some (s, r) →
    s.signatures = start.signatures ++
      ((steps.zip (observed.map fun x ↦ x.2.answer)).take (n + 1)).flatMap signaturesMade
  /-- A step that fails leaves both lists as they were. -/
  failed : ∀ (n : Nat) (before s : State) (r : Report),
    (start :: observed.map Prod.fst)[n]? = some before → observed[n]? = some (s, r) →
    r.answer.IsFailure →
    s.keys = before.keys ∧ s.signatures = before.signatures

theorem accounts_nil (s : State) : Accounts s [] [] := by
  have hnone : ∀ (n : Nat) x, ([] : List (State × Report))[n]? ≠ some x := by simp
  exact
    { length_eq := rfl
      consumed := fun n s r hn ↦ absurd hn (hnone n _)
      script := fun n s r hn ↦ absurd hn (hnone n _)
      generate := fun n s r hn ↦ absurd hn (hnone n _)
      keys := fun n s r hn ↦ absurd hn (hnone n _)
      signatures := fun n s r hn ↦ absurd hn (hnone n _)
      failed := fun n before s r _ hn ↦ absurd hn (hnone n _) }

/-- A step in front of a run.  Each field is about the step itself at place 0, and at the other
places it is the field of the run, seen from the state before the step. -/
theorem Accounts.cons {s s' : State} {action : Step} {r : Report} {steps : List Step}
    {observed : List (State × Report)} (hstep : Takes s s' action r.answer)
    (hleft : r.scriptLeft = s'.script.length) (h : Accounts s' steps observed) :
    Accounts s (action :: steps) ((s', r) :: observed) where
  length_eq := congrArg (· + 1) h.length_eq
  consumed n t q hn := by
    have hlength := congrArg List.length hstep.script
    rw [List.length_drop] at hlength
    rw [List.take_succ_cons, draws_cons]
    cases n with
    | zero =>
      cases hn
      rw [List.take_zero, draws, draws, List.countP_nil]
      rw [draws] at hlength
      omega
    | succ n =>
      have hrest := h.consumed n t q hn
      omega
  script n t q hn := by
    rw [List.take_succ_cons, draws_cons]
    cases n with
    | zero =>
      cases hn
      rw [hstep.script, List.take_zero]
      rfl
    | succ n => rw [h.script n t q hn, hstep.script, List.drop_drop]
  generate n t q hn haction := by
    cases n with
    | zero =>
      cases hn
      exact hstep.generate (Option.some_inj.mp haction)
    | succ n =>
      rw [h.generate n t q hn haction, hstep.script, drawAt_drop, ← draws_cons, List.take_succ_cons]
  keys n t q hn := by
    rw [List.map_cons, List.zip_cons_cons, List.take_succ_cons, List.flatMap_cons,
      ← List.append_assoc, ← hstep.keys]
    cases n with
    | zero =>
      cases hn
      rw [List.take_zero, List.flatMap_nil, List.append_nil]
    | succ n => exact h.keys n t q hn
  signatures n t q hn := by
    rw [List.map_cons, List.zip_cons_cons, List.take_succ_cons, List.flatMap_cons,
      ← List.append_assoc, ← hstep.signatures]
    cases n with
    | zero =>
      cases hn
      rw [List.take_zero, List.flatMap_nil, List.append_nil]
    | succ n => exact h.signatures n t q hn
  failed n before t q hbefore hn hfailed := by
    cases n with
    | zero =>
      cases hbefore
      cases hn
      rw [hstep.keys, hstep.signatures, hfailed.keysMade_eq, hfailed.signaturesMade_eq,
        List.append_nil, List.append_nil]
      exact ⟨rfl, rfl⟩
    | succ n => exact h.failed n before t q hbefore hn hfailed

theorem accounts_runEach (s : State) (each : List (SignatureSettings × Step)) :
    Accounts s (each.map Prod.snd) (runEach s each) := by
  induction each generalizing s with
  | nil => exact accounts_nil s
  | cons first rest ih =>
    obtain ⟨settings, action⟩ := first
    -- the step looks at the settings, but its account does not
    have hstep := takes_step { s with settings } action
    exact .cons ⟨hstep.script, hstep.generate, hstep.keys, hstep.signatures⟩ rfl (ih _)

/-- **The draws are taken in order**, one for each step that generates a key pair, and none for any
other step.  The lists hold what the steps made, in order, and a step that fails adds nothing to
them.  This holds whichever signers take the steps, and of every session. -/
theorem draws_in_order (settings : SignatureSettings) (script : List Draw) :
    (∀ each : List (SignatureSettings × Step),
      Accounts { settings, script } (each.map Prod.snd) (runEach { settings, script } each)) ∧
    ∀ steps : List Step, Accounts { settings, script } steps (run { settings, script } steps) := by
  refine ⟨accounts_runEach _, fun steps ↦ ?_⟩
  have h := accounts_runEach { settings, script } (turns { settings, script } steps)
  rwa [map_snd_turns, runEach_turns] at h

end HexSigner.Session
