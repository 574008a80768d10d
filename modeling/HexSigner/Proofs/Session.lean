import HexSigner.Session
import HexSigner.Proofs.Ed25519

/-!
# The keys of a session

A session holds keys from two sources.  Generated keys are computed from a seed, by multiplying the
base point, and never pass through the reader of public keys; parsed keys come from that reader.
Both kinds are read back from their own text (`keys_readBack`), which for the generated ones means
that multiples of the base point stay on the curve and that the reader recovers them from their
encoding.

What a step adds to the list of keys can be told from its answer (`addsKeys_step`), so the invariant
needs to be looked at for the two answers that carry a key only; `forall_run` then extends to whole
runs what every single step preserves.
-/

set_option autoImplicit false

namespace HexSigner

/-- A key is read back from its own text: the text is a public key, and reading it gives the very
same key, with the same bytes, text and identifier. -/
structure PublicKey.ReadsBack (k : PublicKey) : Prop where
  valid : Signer.validatePublicKey k.toText = true
  parsed : Signer.parsePublicKey k.toText = .ok k

namespace PublicKey

theorem readsBack_of_publicKey? {k : PublicKey} (h : Ed25519.publicKey? k.bytes = some k) :
    k.ReadsBack where
  valid := by
    rw [Signer.validatePublicKey, ofText_toText h]
    rfl
  parsed := ofText_toText h

theorem readsBack_of_parsePublicKey {text : String} {k : PublicKey}
    (h : Signer.parsePublicKey text = .ok k) : k.ReadsBack :=
  readsBack_of_publicKey? (ofText_eq_ok_iff.mp h).2

/-- The public key of a seed is on the curve, so it is one that reading can yield. -/
theorem readsBack_publicKeyOfSeed (seed : Octets 32) : (KeyPair.mk seed).publicKey.ReadsBack :=
  readsBack_of_publicKey? (Ed25519.publicKey?_publicKeyOfSeed seed)

end PublicKey

namespace Session

/-! ## One step -/

/-- Where the key of a session comes from: a pair was generated, and a public key was parsed. -/
inductive StoredKey.Obtained : StoredKey → Prop
  | generated (pair : KeyPair) : Obtained (.pair pair)
  | parsed {text : String} {key : PublicKey} (h : Signer.parsePublicKey text = .ok key) :
      Obtained (.parsed key)

theorem StoredKey.Obtained.readsBack {k : StoredKey} (h : k.Obtained) : k.publicKey.ReadsBack := by
  cases h with
  | generated pair => exact PublicKey.readsBack_publicKeyOfSeed pair.seed
  | parsed h => exact PublicKey.readsBack_of_parsePublicKey h

/-- The keys that a step with a given answer adds to the list. -/
def Answer.newKeys : Answer → List StoredKey
  | .pair p => [.pair p]
  | .publicKey k => [.parsed k]
  | _ => []

/-- A step may add the keys of its answer, if they were generated or parsed. -/
structure AddsKeys (s s' : State) (answer : Answer) : Prop where
  keys : s'.keys = s.keys ++ answer.newKeys
  obtained : ∀ k ∈ answer.newKeys, k.Obtained

theorem AddsKeys.of_keys_eq {s s' : State} {answer : Answer} (hkeys : s'.keys = s.keys)
    (hnew : answer.newKeys = []) : AddsKeys s s' answer where
  keys := by rw [hkeys, hnew, List.append_nil]
  obtained := by simp [hnew]

theorem newKeys_compare {α : Type} [DecidableEq α] (a b : Option α) :
    (compare a b).newKeys = [] := by
  rw [compare.eq_def]
  split
  · split <;> rfl
  · rfl

/-- **A step adds the key that it answers with**, if it answers with one, and nothing else. -/
theorem addsKeys_step (s : State) (action : Step) :
    AddsKeys s (step s action).1 (step s action).2.1 := by
  cases action with
  | configure settings => exact .of_keys_eq rfl rfl
  | clone => exact .of_keys_eq rfl rfl
  | generate =>
    simp only [step]
    split
    · exact .of_keys_eq rfl rfl
    · exact ⟨rfl, by simp [Answer.newKeys, StoredKey.Obtained.generated]⟩
  | parse key =>
    simp only [step]
    split
    · exact .of_keys_eq rfl rfl
    · split
      · exact .of_keys_eq rfl rfl
      · rename_i h
        exact ⟨rfl, by simp [Answer.newKeys, StoredKey.Obtained.parsed h]⟩
  | validate key =>
    simp only [step]
    split <;> exact .of_keys_eq rfl rfl
  | sign key digest =>
    simp only [step]
    split
    · exact .of_keys_eq rfl rfl
    · split <;> exact .of_keys_eq rfl rfl
  | verify key signature flip digest =>
    simp only [step]
    split <;> exact .of_keys_eq rfl rfl
  | sameKey a b => exact .of_keys_eq rfl (newKeys_compare _ _)
  | sameSignature a b => exact .of_keys_eq rfl (newKeys_compare _ _)

/-! ## Runs -/

/-- What every step preserves holds after each step of a run. -/
theorem forall_run {P : State → Prop} (hstep : ∀ s action, P s → P (step s action).1) {s : State}
    (h : P s) (steps : List Step) : ∀ x ∈ run s steps, P x.1 := by
  induction steps generalizing s with
  | nil =>
    intro x hx
    cases hx
  | cons first rest ih =>
    intro x hx
    rcases List.mem_cons.mp hx with rfl | hx
    · exact hstep s first h
    · exact ih (hstep s first h) x hx

theorem obtained_run (settings : SignatureSettings) (script : List Draw) (steps : List Step) :
    ∀ x ∈ run { settings, script } steps, ∀ k ∈ x.1.keys, k.Obtained := by
  refine forall_run (P := fun s ↦ ∀ k ∈ s.keys, k.Obtained) (fun s action h k hk ↦ ?_) ?_ steps
  · have hadds := addsKeys_step s action
    rw [hadds.keys] at hk
    exact (List.mem_append.mp hk).elim (h k) (hadds.obtained k)
  · exact List.forall_mem_nil _

/-- **Every key is read back from its own text.**  This holds of the public key of every seed, and
of every key that a session holds after any of its steps, whatever its settings, its draws and its
steps. -/
theorem keys_readBack :
    (∀ seed : Octets 32, (KeyPair.mk seed).publicKey.ReadsBack) ∧
    ∀ (settings : SignatureSettings) (script : List Draw) (steps : List Step),
      ∀ x ∈ run { settings, script } steps, ∀ k ∈ x.1.keys, k.publicKey.ReadsBack :=
  ⟨PublicKey.readsBack_publicKeyOfSeed, fun settings script steps x hx k hk ↦
    (obtained_run settings script steps x hx k hk).readsBack⟩

/-- A session that generates a key, and parses one whose `y` is not reduced, holds both. -/
theorem keys_readBack_both :
    let seed := Octets.ofNat 32 1
    let text := "302a300506032b6570032100" ++
      "eeffffffffffffffffffffffffffffffffffffffffffffffffffffffffffff7f"
    let parsed : PublicKey := ⟨Octets.ofNat 32 (Curve.prime + 1), Curve.Point.identity⟩
    ∃ s report, (s, report) ∈ run { settings := ⟨.strict, true⟩, script := [.ok seed] }
        [.generate, .parse (.text text)] ∧
      s.keys = [.pair ⟨seed⟩, .parsed parsed] ∧
      (KeyPair.mk seed).publicKey.ReadsBack ∧ parsed.ReadsBack := by
  intro seed text parsed
  have hparsed : Signer.parsePublicKey text = .ok parsed := by decide +kernel
  let generated : State := ⟨⟨.strict, true⟩, [], [.pair ⟨seed⟩], []⟩
  have hkeys : (step generated (.parse (.text text))).1.keys = [.pair ⟨seed⟩, .parsed parsed] := by
    simp only [step, State.publicText, hparsed]
    rfl
  have hrun : (step generated (.parse (.text text))).1 ∈
      (run { settings := ⟨.strict, true⟩, script := [.ok seed] }
        [.generate, .parse (.text text)]).map Prod.fst :=
    List.mem_cons_of_mem _ List.mem_cons_self
  obtain ⟨⟨_, report⟩, hmem, rfl⟩ := List.mem_map.mp hrun
  have hback := keys_readBack.2 _ _ _ _ hmem
  rw [hkeys] at hback
  exact ⟨_, report, hmem, hkeys, hback _ List.mem_cons_self,
    hback _ (List.mem_cons_of_mem _ List.mem_cons_self)⟩

end Session

end HexSigner
