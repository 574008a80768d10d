import HexSigner.Proofs.Failure
import HexSigner.Proofs.Key.Export

/-!
# The stages of a verification

A verification goes through four stages: it reads the public key, the signature and the digest, and
then asks the policy about the bytes.  Any of them may fail, and when several would, the first one
counts.  The answer is the same for all of them, and for a signature that is merely wrong; only the
event that goes with it says which stage it was and what that had to complain about.

This file says when a stage fails without going through the others (`Fails`), so the order shows in
one place only (`FirstToFail`), and it takes the words of a stage from the operations that complain
about the same text on their own (`Complains`): parsing a public key, reading a signature, and
signing.  The main result is that verifying agrees with this (`verify_reports_first_failure`).  In
particular there is never more than one event, and none at all unless they were asked for.
-/

set_option autoImplicit false

namespace HexSigner.Signer

/-- A stage of a verification. -/
inductive Stage where
  | publicKey
  | signature
  | digest
  | policy
deriving DecidableEq, Repr

namespace Stage

/-- The place of a stage in their order. -/
def place : Stage → Nat
  | .publicKey => 1
  | .signature => 2
  | .digest => 3
  | .policy => 4

/-- How the reason for a rejection begins. -/
def opening : Stage → String
  | .publicKey => "malformed public key: "
  | .signature => "malformed signature: "
  | .digest => "malformed digest: "
  | .policy => "signature does not verify: "

end Stage

section

variable (policy : VerificationPolicy) (publicKey signature digest : String)

/-- A stage fails, whatever becomes of the stages before it.  The policy is asked about bytes, so it
can only fail if there are any. -/
def Fails : Stage → Prop
  | .publicKey => ∀ key, parsePublicKey publicKey ≠ .ok key
  | .signature => ∀ bytes, Hex.decode signature = .ok bytes → bytes.length ≠ 64
  | .digest => Hex.isHex digest = false
  | .policy => ∃ key s message, parsePublicKey publicKey = .ok key ∧
      Hex.decode signature = .ok s.bytes.toList ∧ Hex.decode digest = .ok message ∧
      Ed25519.check policy key message s ≠ .ok ()

/-- A stage fails, and none before it does. -/
def FirstToFail (stage : Stage) : Prop :=
  Fails policy publicKey signature digest stage ∧
    ∀ earlier : Stage, earlier.place < stage.place →
      ¬Fails policy publicKey signature digest earlier

/-- What a stage complains about, in words.  They are those of the failure that parsing the public
key or reading the signature has, or that signing the digest has with every private key. -/
def Complains : Stage → String → Prop
  | .publicKey, words => ∃ f, parsePublicKey publicKey = .error f ∧ words = f.message
  | .signature, words => ∃ f, Signature.ofText signature = .error f ∧ words = f.message
  | .digest, words => ∃ f, (∀ privateKey, AcceptsKey privateKey →
      sign privateKey digest = .error f) ∧ words = f.message
  | .policy, words => ∃ key s message r, parsePublicKey publicKey = .ok key ∧
      Hex.decode signature = .ok s.bytes.toList ∧ Hex.decode digest = .ok message ∧
      Ed25519.check policy key message s = .error r ∧ words = r.message

end

variable {policy : VerificationPolicy} {publicKey signature digest words : String}

/-! ## Each stage on its own -/

theorem not_fails_publicKey_iff :
    ¬Fails policy publicKey signature digest .publicKey ↔
      ∃ key, PublicKey.ofText publicKey = .ok key := by
  simp [Fails, parsePublicKey]

theorem not_fails_signature_iff :
    ¬Fails policy publicKey signature digest .signature ↔
      ∃ s, Signature.ofText signature = .ok s := by
  simp only [Fails, not_forall, not_not, exists_prop, Signature.ofText_eq_ok_iff]
  exact ⟨fun ⟨bytes, h, hlength⟩ ↦ ⟨⟨⟨bytes, hlength⟩⟩, h⟩,
    fun ⟨s, h⟩ ↦ ⟨s.bytes.toList, h, s.bytes.length_eq⟩⟩

theorem not_fails_digest_iff :
    ¬Fails policy publicKey signature digest .digest ↔
      ∃ message, Hex.decode digest = .ok message := by
  rw [Fails, Bool.not_eq_false, Hex.isHex_iff_exists_decode]

/-- There is a private key, so a digest that is complained about is complained about by signing. -/
theorem exists_acceptsKey : ∃ privateKey, AcceptsKey privateKey :=
  ⟨_, acceptsKey_iff.mpr
    ⟨_, KeyPair.ofText_encode (Key.PrivateDocument.decode_encode (Octets.ofNat 32 0))⟩⟩

/-- What signing says of a digest is what the codec says of it, whatever the key. -/
theorem forall_sign_eq_error_iff {f : Failure} :
    (∀ privateKey, AcceptsKey privateKey → sign privateKey digest = .error f) ↔
      ∃ g, Hex.decode digest = .error g ∧ f = g.toFailure := by
  refine ⟨fun h ↦ ?_, ?_⟩
  · obtain ⟨privateKey, haccepts⟩ := exists_acceptsKey
    obtain ⟨pair, hkey⟩ := acceptsKey_iff.mp haccepts
    have hsign := h privateKey haccepts
    rw [sign_eq_of_ofText hkey] at hsign
    cases hdecode : Hex.decode digest with
    | error g =>
      rw [hdecode] at hsign
      cases hsign
      exact ⟨g, rfl, rfl⟩
    | ok message =>
      rw [hdecode] at hsign
      cases hsign
  · rintro ⟨g, hg, rfl⟩ privateKey haccepts
    obtain ⟨pair, hkey⟩ := acceptsKey_iff.mp haccepts
    rw [sign_eq_of_ofText hkey, hg]
    rfl

/-! ## One stage after the other -/

/-- Once all three texts are read, the policy decides. -/
theorem check_of_read {key : PublicKey} {s : Signature} {message : List UInt8}
    (hkey : PublicKey.ofText publicKey = .ok key) (hs : Signature.ofText signature = .ok s)
    (hmessage : Hex.decode digest = .ok message) :
    check policy publicKey signature digest =
      (Ed25519.check policy key message s).mapError .invalid := by
  rw [check, hkey, hs, hmessage]
  rfl

/-- **The first stage that fails is the one that the check reports**, in that stage's words. -/
theorem check_of_firstToFail {stage : Stage}
    (h : FirstToFail policy publicKey signature digest stage)
    (hwords : Complains policy publicKey signature digest stage words) :
    ∃ r, check policy publicKey signature digest = .error r ∧
      r.message = stage.opening ++ words := by
  obtain ⟨-, hbefore⟩ := h
  -- what is known of the stages before: each of them went through
  cases stage with
  | publicKey =>
    obtain ⟨f, hf, rfl⟩ := hwords
    refine ⟨.publicKey f, ?_, rfl⟩
    rw [check, show PublicKey.ofText publicKey = .error f from hf]
    rfl
  | signature =>
    obtain ⟨f, hf, rfl⟩ := hwords
    obtain ⟨key, hkey⟩ := not_fails_publicKey_iff.mp (hbefore .publicKey (by decide))
    refine ⟨.signature f, ?_, rfl⟩
    rw [check, hkey, hf]
    rfl
  | digest =>
    obtain ⟨_, hsign, rfl⟩ := hwords
    obtain ⟨g, hg, rfl⟩ := forall_sign_eq_error_iff.mp hsign
    obtain ⟨key, hkey⟩ := not_fails_publicKey_iff.mp (hbefore .publicKey (by decide))
    obtain ⟨s, hs⟩ := not_fails_signature_iff.mp (hbefore .signature (by decide))
    refine ⟨.digest g.toFailure, ?_, rfl⟩
    rw [check, hkey, hs, hg]
    rfl
  | policy =>
    obtain ⟨key, s, message, r, hkey, hs, hmessage, hr, rfl⟩ := hwords
    refine ⟨.invalid r, ?_, rfl⟩
    rw [check_of_read hkey (Signature.ofText_eq_ok_iff.mpr hs) hmessage, hr]
    rfl

/-- If no stage fails, the check succeeds. -/
theorem check_of_forall_not_fails
    (h : ∀ stage, ¬Fails policy publicKey signature digest stage) :
    check policy publicKey signature digest = .ok () := by
  obtain ⟨key, hkey⟩ := not_fails_publicKey_iff.mp (h .publicKey)
  obtain ⟨s, hs⟩ := not_fails_signature_iff.mp (h .signature)
  obtain ⟨message, hmessage⟩ := not_fails_digest_iff.mp (h .digest)
  refine check_eq_ok_iff.mpr ⟨key, s, message, hkey, hs, hmessage, ?_⟩
  by_contra hcheck
  exact h .policy ⟨key, s, message, hkey, Signature.ofText_eq_ok_iff.mp hs, hmessage, hcheck⟩

/-- A stage that fails has something to complain about. -/
theorem exists_complains {stage : Stage} (h : Fails policy publicKey signature digest stage) :
    ∃ words, Complains policy publicKey signature digest stage words := by
  cases stage with
  | publicKey =>
    cases hparse : parsePublicKey publicKey with
    | error f => exact ⟨_, f, hparse, rfl⟩
    | ok key => exact absurd hparse (h key)
  | signature =>
    cases hread : Signature.ofText signature with
    | error f => exact ⟨_, f, hread, rfl⟩
    | ok s => exact absurd h (not_fails_signature_iff.mpr ⟨s, hread⟩)
  | digest =>
    obtain ⟨g, hg⟩ := (Hex.isHex_eq_false_iff digest).mp h
    exact ⟨_, g.toFailure, forall_sign_eq_error_iff.mpr ⟨g, hg, rfl⟩, rfl⟩
  | policy =>
    obtain ⟨key, s, message, hkey, hs, hmessage, hcheck⟩ := h
    cases hr : Ed25519.check policy key message s with
    | error r => exact ⟨_, key, s, message, r, hkey, hs, hmessage, hr, rfl⟩
    | ok => exact absurd hr hcheck

/-- If any stage fails, one is the first. -/
theorem exists_firstToFail (h : ∃ stage, Fails policy publicKey signature digest stage) :
    ∃ stage, FirstToFail policy publicKey signature digest stage := by
  obtain ⟨stage, hstage⟩ := h
  -- the induction is on the place of the stage: either it is the first or an earlier one fails
  induction hplace : stage.place using Nat.strong_induction_on generalizing stage with
  | _ n ih =>
    subst hplace
    by_cases hearlier : ∃ earlier : Stage, earlier.place < stage.place ∧
        Fails policy publicKey signature digest earlier
    · obtain ⟨earlier, hlt, hfails⟩ := hearlier
      exact ih earlier.place hlt earlier hfails rfl
    · exact ⟨stage, hstage, fun earlier hlt hfails ↦ hearlier ⟨earlier, hlt, hfails⟩⟩

/-! ## The answer and the event -/

/-- **Verifying reports the first stage that fails, at most once.**

* If no stage fails, the answer is yes, and there is no event.
* Otherwise there is a first stage to fail, and it has something to complain about.  The answer is
  no.  If rejections are to be explained, there is one event, which says what the stage is and what
  it complains about; and if they are not, there is none.
* The answer does not depend on whether rejections are to be explained. -/
theorem verify_reports_first_failure (settings : SignatureSettings)
    (publicKey signature digest : String) :
    ((∀ stage, ¬Fails settings.verification publicKey signature digest stage) →
      verify settings publicKey signature digest = ⟨true, []⟩) ∧
    ((∃ stage, Fails settings.verification publicKey signature digest stage) →
      ∃ stage words, FirstToFail settings.verification publicKey signature digest stage ∧
        Complains settings.verification publicKey signature digest stage words) ∧
    (∀ stage words, FirstToFail settings.verification publicKey signature digest stage →
      Complains settings.verification publicKey signature digest stage words →
      verify settings publicKey signature digest = ⟨false,
        if settings.diagnostics then
          [⟨.debug, "asymsig_crypto::provider", some ⟨"verify", "asymsig_crypto::provider"⟩,
            "signature rejected", [⟨"reason", stage.opening ++ words, false⟩]⟩]
        else []⟩) ∧
    ∀ diagnostics, (verify ⟨settings.verification, diagnostics⟩ publicKey signature digest).value =
      (verify settings publicKey signature digest).value := by
  refine ⟨fun h ↦ ?_, fun h ↦ ?_, fun stage words hfirst hwords ↦ ?_, fun diagnostics ↦ ?_⟩
  · rw [verify, check_of_forall_not_fails h]
  · obtain ⟨stage, hfirst⟩ := exists_firstToFail h
    obtain ⟨words, hwords⟩ := exists_complains hfirst.1
    exact ⟨stage, words, hfirst, hwords⟩
  · obtain ⟨r, hr, hmessage⟩ := check_of_firstToFail hfirst hwords
    rw [verify, hr, ← hmessage]
    rfl
  · rw [Bool.eq_iff_iff, verify_eq_true_iff_check, verify_eq_true_iff_check]

/-- Three texts that are all malformed: the public key is the one that is reported. -/
theorem verify_reports_first_failure_publicKey :
    (∃ stage, Fails .strict "zz" "00" "0" stage) ∧
    FirstToFail .strict "zz" "00" "0" .publicKey ∧
    verify ⟨.strict, true⟩ "zz" "00" "0" = ⟨false,
      [⟨.debug, "asymsig_crypto::provider", some ⟨"verify", "asymsig_crypto::provider"⟩,
        "signature rejected",
        [⟨"reason", "malformed public key: Invalid key format: public key is not valid hex: " ++
          "Invalid input format: invalid hex character 'z' at index 0", false⟩]⟩]⟩ ∧
    verify ⟨.strict, false⟩ "zz" "00" "0" = ⟨false, []⟩ := by
  have hparse : parsePublicKey "zz" = .error (.invalidKey (.publicNotHex (.badDigit 0x7a 0))) := by
    decide +kernel
  have hfirst : FirstToFail .strict "zz" "00" "0" .publicKey :=
    ⟨fun key ↦ by simp [hparse], fun earlier hlt ↦ by cases earlier <;> simp [Stage.place] at hlt⟩
  have hwords : Complains .strict "zz" "00" "0" .publicKey
      ("Invalid key format: public key is not valid hex: " ++
        "Invalid input format: invalid hex character 'z' at index 0") :=
    ⟨_, hparse, by decide +kernel⟩
  exact ⟨⟨_, hfirst.1⟩, hfirst,
    (verify_reports_first_failure ⟨.strict, true⟩ "zz" "00" "0").2.2.1 _ _ hfirst hwords,
    (verify_reports_first_failure ⟨.strict, false⟩ "zz" "00" "0").2.2.1 _ _ hfirst hwords⟩

end HexSigner.Signer
