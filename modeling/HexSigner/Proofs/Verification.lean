import HexSigner.Session
import HexSigner.Proofs.Signer
import Mathlib.Tactic.IntervalCases

/-!
# Which signatures are valid

What verifying accepts, over all texts.

* *The two policies.*  The strict policy accepts what the standard one accepts, except where the
  key or the commitment is a point of small order.  That needs an argument, for only the strict
  policy decodes the commitment: a commitment that the standard policy accepts is the encoding of a
  point, and so it decodes (`exists_points_of_verify`).
* *Altered responses.*  With the key, the digest and the commitment fixed there is at most one
  valid response, for keys of every order (`eq_of_verify`).
* *RFC 8032.*  The standard policy asks for the equation of RFC 8032 without the cofactor, and it
  reads commitments and responses by the rules there.  Keys it reads more generously
  (`verify_standard_iff_validBy`), so a key that is no key by RFC 8032 may have valid signatures.
-/

set_option autoImplicit false

namespace HexSigner.Signer

open Curve

/-! ## The two policies -/

/-- Eight times the point of a public key is the neutral point. -/
def KeyHasSmallOrder (publicKey : String) : Prop :=
  ∃ key, PublicKey.ofText publicKey = .ok key ∧ key.point.times 8 = Point.identity

/-- Eight times the point that the first half of a signature encodes is the neutral point. -/
def CommitmentHasSmallOrder (signature : String) : Prop :=
  ∃ s r, Signature.ofText signature = .ok s ∧ Point.decode? s.commitment = some r ∧
    r.times 8 = Point.identity

/-- On the curve the test for small order is what its name says. -/
theorem hasSmallOrder_eq_false_iff {p : Point} (h : p.OnCurve) :
    p.hasSmallOrder = false ↔ p.times 8 ≠ Point.identity := by
  rw [Point.hasSmallOrder, Point.multiple_eq_times h, beq_eq_false_iff_ne]

theorem onCurve_of_ofText {publicKey : String} {key : PublicKey}
    (h : PublicKey.ofText publicKey = .ok key) : key.point.OnCurve :=
  Point.onCurve_of_decode? (PublicKey.decode?_of_ofText h)

/-- What the standard policy accepts has a key and a commitment that encode points. -/
theorem exists_points_of_verify {settings : SignatureSettings}
    {publicKey signature digest : String}
    (h : (verify settings publicKey signature digest).value = true) :
    ∃ key s r, PublicKey.ofText publicKey = .ok key ∧ Signature.ofText signature = .ok s ∧
      Point.decode? s.commitment = some r := by
  obtain ⟨key, s, message, hkey, hs, -, hcheck⟩ := verify_eq_true_iff.mp h
  obtain ⟨A, hA⟩ := (Point.onCurve_iff_denotes key.point).mp (onCurve_of_ofText hkey)
  obtain ⟨-, r, hr, -⟩ := (Ed25519.check_standard_iff hA).mp
    (Ed25519.check_standard_of_check hcheck)
  exact ⟨key, s, r, hkey, hs, (Rfc8032.decodes_iff.mp hr).1⟩

/-- **The strict policy is the standard one without points of small order.**  Both points are there
whenever the standard policy says yes, so small order is the only further ground for a no. -/
theorem verify_strict_iff (diagnostics diagnostics' : Bool)
    (publicKey signature digest : String) :
    ((verify ⟨.strict, diagnostics⟩ publicKey signature digest).value = true ↔
      (verify ⟨.standard, diagnostics'⟩ publicKey signature digest).value = true ∧
        ¬KeyHasSmallOrder publicKey ∧ ¬CommitmentHasSmallOrder signature) ∧
    ((verify ⟨.standard, diagnostics'⟩ publicKey signature digest).value = true →
      ∃ key s r, PublicKey.ofText publicKey = .ok key ∧ Signature.ofText signature = .ok s ∧
        Point.decode? s.commitment = some r) := by
  refine ⟨⟨fun h ↦ ?_, ?_⟩, exists_points_of_verify⟩
  · obtain ⟨key, s, message, hkey, hs, hmessage, hcheck⟩ := verify_eq_true_iff.mp h
    obtain ⟨hstandard, r, hr, hrsmall, hsmall⟩ := Ed25519.check_strict_iff.mp hcheck
    refine ⟨verify_eq_true_iff.mpr ⟨key, s, message, hkey, hs, hmessage, hstandard⟩, ?_, ?_⟩
    · rintro ⟨key', hkey', hsmall'⟩
      rw [hkey, Except.ok.injEq] at hkey'
      exact (hasSmallOrder_eq_false_iff (onCurve_of_ofText hkey)).mp hsmall (hkey' ▸ hsmall')
    · rintro ⟨s', r', hs', hr', hsmall'⟩
      rw [hs, Except.ok.injEq] at hs'
      rw [← hs', hr, Option.some_inj] at hr'
      exact (hasSmallOrder_eq_false_iff (Point.onCurve_of_decode? hr)).mp hrsmall (hr' ▸ hsmall')
  · rintro ⟨h, hkeysmall, hrsmall⟩
    -- the standard policy never decoded the commitment, but it does decode
    obtain ⟨key, s, r, hkey, hs, hr⟩ := exists_points_of_verify h
    obtain ⟨message, hmessage, hcheck⟩ := (verify_eq_true_iff_of_ofText hkey hs).mp h
    refine (verify_eq_true_iff_of_ofText hkey hs).mpr
      ⟨message, hmessage, Ed25519.check_strict_iff.mpr ⟨hcheck, r, hr, ?_, ?_⟩⟩
    · rw [hasSmallOrder_eq_false_iff (Point.onCurve_of_decode? hr)]
      exact fun hsmall ↦ hrsmall ⟨s, r, hs, hr, hsmall⟩
    · rw [hasSmallOrder_eq_false_iff (onCurve_of_ofText hkey)]
      exact fun hsmall ↦ hkeysmall ⟨key, hkey, hsmall⟩

/-! ## Altered responses -/

/-- Of two valid signatures of one digest under one key, the second is the first if it has the same
commitment.  They may be valid by different policies. -/
theorem eq_of_verify {settings settings' : SignatureSettings}
    {publicKey text text' digest : String} {s s' : Signature}
    (hs : Signature.ofText text = .ok s) (hs' : Signature.ofText text' = .ok s')
    (hvalid : (verify settings publicKey text digest).value = true)
    (hvalid' : (verify settings' publicKey text' digest).value = true)
    (h : s'.commitment = s.commitment) : s' = s := by
  obtain ⟨key, _, message, hkey, ht, hmessage, hcheck⟩ := verify_eq_true_iff.mp hvalid
  rw [hs, Except.ok.injEq] at ht
  subst ht
  obtain ⟨message', hmessage', hcheck'⟩ := (verify_eq_true_iff_of_ofText hkey hs').mp hvalid'
  rw [hmessage, Except.ok.injEq] at hmessage'
  subst hmessage'
  obtain ⟨A, hA⟩ := (Point.onCurve_iff_denotes key.point).mp (onCurve_of_ofText hkey)
  have hresponse := Ed25519.response_unique hA hcheck' hcheck h
  rw [← Signature.ofParts_commitment_response s', h, hresponse,
    Signature.ofParts_commitment_response]

/-- Inverting a bit of the second half leaves the first half alone. -/
theorem commitment_flipBit (s : Signature) {bit : Nat} (h : 256 ≤ bit) :
    (Session.flipBit s bit).commitment = s.commitment := by
  apply Octets.ext
  have hindex : (s.bytes.toList.take 32).length ≤ bit / 8 := by
    rw [List.length_take]
    omega
  change (s.bytes.toList.modify (bit / 8) _).take 32 = s.bytes.toList.take 32
  rw [List.take_modify, List.modify_eq_self hindex]

/-- Inverting a bit changes a byte. -/
theorem xor_bit_ne (b : UInt8) {k : Nat} (h : k < 8) : b ^^^ (1 <<< UInt8.ofNat k) ≠ b := by
  have hbit : 1 <<< UInt8.ofNat k ≠ 0 := by
    interval_cases k
    all_goals decide
  intro hb
  exact hbit ((UInt8.xor_right_inj b).mp (hb.trans UInt8.xor_zero.symm))

theorem flipBit_ne (s : Signature) {bit : Nat} (h : bit < 512) : Session.flipBit s bit ≠ s := by
  intro heq
  have hlist : (Session.flipBit s bit).bytes.toList = s.bytes.toList := by rw [heq]
  have hlt : bit / 8 < s.bytes.toList.length := by
    rw [s.bytes.length_eq]
    omega
  have hbyte := congrArg (·[bit / 8]?) hlist
  simp only [Session.flipBit, List.getElem?_modify_eq, List.getElem?_eq_getElem hlt,
    Option.map_eq_map, Option.map_some, Option.some_inj] at hbyte
  exact xor_bit_ne _ (Nat.mod_lt bit (by decide)) hbyte

/-- Adding a multiple of the order of the base point changes the response, unless the multiple
vanishes modulo `256 ^ 32`. -/
theorem ofNat_add_mul_groupOrder_ne (o : Octets 32) {m : Nat} (h : ¬256 ^ 32 ∣ m) :
    Octets.ofNat 32 (o.toNat + m * groupOrder) ≠ o := by
  intro heq
  have hmod : (o.toNat + m * groupOrder) % 256 ^ 32 = o.toNat := by
    rw [← Octets.toNat_ofNat, heq]
  have hdvd : 256 ^ 32 ∣ m * groupOrder := by omega
  have hcoprime : Nat.Coprime (256 ^ 32) groupOrder := by decide +kernel
  exact h (hcoprime.dvd_of_dvd_mul_right hdvd)

/-- **A response cannot be altered.**  Beside a valid signature no other response with the same
commitment is valid for the key and the digest.  So a valid signature is spoilt by inverting any bit
of its second half, and by adding any multiple of the order of the base point to the response,
modulo `256 ^ 32`, unless the multiple vanishes. -/
theorem verify_altered_response {settings : SignatureSettings} {publicKey text digest : String}
    {s : Signature} (hs : Signature.ofText text = .ok s)
    (hvalid : (verify settings publicKey text digest).value = true) :
    (∀ settings' text' response, Signature.ofText text' = .ok (.ofParts s.commitment response) →
      (verify settings' publicKey text' digest).value = true → response = s.response) ∧
    (∀ settings' text' bit, 256 ≤ bit → bit < 512 →
      Signature.ofText text' = .ok (Session.flipBit s bit) →
        (verify settings' publicKey text' digest).value = false) ∧
    (∀ settings' text' m, ¬256 ^ 32 ∣ m →
      Signature.ofText text' = .ok (.ofParts s.commitment
        (Octets.ofNat 32 (s.response.toNat + m * groupOrder))) →
          (verify settings' publicKey text' digest).value = false) := by
  have hunique : ∀ settings' text' response,
      Signature.ofText text' = .ok (.ofParts s.commitment response) →
        (verify settings' publicKey text' digest).value = true → response = s.response := by
    intro settings' text' response hs' hvalid'
    have heq := eq_of_verify hs hs' hvalid hvalid' (Signature.commitment_ofParts _ _)
    rw [← heq, Signature.response_ofParts]
  refine ⟨hunique, ?_, ?_⟩
  · intro settings' text' bit hle hlt hs'
    rw [← Bool.not_eq_true]
    intro hvalid'
    exact flipBit_ne s hlt (eq_of_verify hs hs' hvalid hvalid' (commitment_flipBit s hle))
  · intro settings' text' m hm hs'
    rw [← Bool.not_eq_true]
    intro hvalid'
    exact ofNat_add_mul_groupOrder_ne _ hm (hunique settings' text' _ hs' hvalid')

/-- The signature of a digest with a seed is valid, and inverting a bit of its second half spoils
it. -/
theorem verify_altered_response_seed :
    (verify ⟨.standard, true⟩ (KeyPair.mk (Octets.ofNat 32 1)).publicKey.toText
      (Ed25519.sign (Octets.ofNat 32 1) [0x72]).toText "72").value = true ∧
    ∀ settings text bit, 256 ≤ bit → bit < 512 →
      Signature.ofText text = .ok
        (Session.flipBit (Ed25519.sign (Octets.ofNat 32 1) [0x72]) bit) →
          (verify settings (KeyPair.mk (Octets.ofNat 32 1)).publicKey.toText text
            "72").value = false := by
  have hdigest : Hex.decode "72" = .ok [0x72] := by decide +kernel
  have hvalid : (verify ⟨.standard, true⟩ (KeyPair.mk (Octets.ofNat 32 1)).publicKey.toText
      (Ed25519.sign (Octets.ofNat 32 1) [0x72]).toText "72").value = true :=
    verify_sign_of_check hdigest (Ed25519.check_sign _ _)
  exact ⟨hvalid, (verify_altered_response (Signature.ofText_toText _) hvalid).2.1⟩

/-! ## RFC 8032 -/

/-- What RFC 8032 asks of a signature, without the cofactor, when `decodes` says how the bytes of
the key are read: the digest is hexadecimal, the key is the text of its document, the signature is
the text of a commitment `R` and a response `S`, `R` follows the rules for encoded points, `S` is
reduced, and `[S] B = R + [k] A`. -/
def ValidBy (decodes : Octets 32 → Point → Prop) (publicKey signature digest : String) : Prop :=
  ∃ (key R S : Octets 32) (message : List UInt8) (A r : Point),
    Hex.decode publicKey = .ok (Key.PublicDocument.header ++ key.toList) ∧
    Hex.decode signature = .ok (R.toList ++ S.toList) ∧ Hex.decode digest = .ok message ∧
    decodes key A ∧ Rfc8032.Decodes R r ∧ S.toNat < groupOrder ∧
    Point.base.times S.toNat = r.add (A.times (Ed25519.challenge R key message))

/-- The key of a document is written as RFC 8032 has it, so that `y` is reduced and there is no sign
on `x = 0`. -/
def KeyIsCanonical (publicKey : String) : Prop :=
  ∃ key : Octets 32, Hex.decode publicKey = .ok (Key.PublicDocument.header ++ key.toList) ∧
    Rfc8032.Canonical key

/-- The standard policy asks for what RFC 8032 asks for, with keys read generously. -/
theorem verify_standard_iff_validBy {diagnostics : Bool} {publicKey signature digest : String} :
    (verify ⟨.standard, diagnostics⟩ publicKey signature digest).value = true ↔
      ValidBy Generous.Decodes publicKey signature digest := by
  rw [verify_eq_true_iff]
  constructor
  · rintro ⟨key, s, message, hkey, hs, hmessage, hcheck⟩
    obtain ⟨hlt, r, hr, heq⟩ :=
      (Ed25519.check_standard_iff_equation (onCurve_of_ofText hkey)).mp hcheck
    refine ⟨key.bytes, s.commitment, s.response, message, key.point, r,
      (PublicKey.ofText_eq_ok_iff.mp hkey).1, ?_, hmessage,
      Point.decode?_eq_some_iff.mp (PublicKey.decode?_of_ofText hkey), hr, hlt, heq⟩
    rw [Signature.ofText_eq_ok_iff.mp hs]
    exact congrArg Except.ok (List.take_append_drop 32 s.bytes.toList).symm
  · rintro ⟨key, R, S, message, A, r, hkey, hs, hmessage, hA, hr, hlt, heq⟩
    refine ⟨⟨key, A⟩, .ofParts R S, message, ?_, Signature.ofText_eq_ok_iff.mpr hs, hmessage, ?_⟩
    · exact PublicKey.ofText_eq_ok_iff.mpr
        ⟨hkey, Ed25519.publicKey?_eq_some_iff.mpr (Point.decode?_eq_some_iff.mpr hA)⟩
    · -- stated for the key, as the points of `hA` are slow to unify with a projection
      have hcurve : (PublicKey.mk key A).point.OnCurve := hA.onCurve
      rw [Ed25519.check_standard_iff_equation hcurve, Signature.commitment_ofParts,
        Signature.response_ofParts]
      exact ⟨hlt, r, hr, heq⟩

/-- **The standard policy and RFC 8032.**  The standard policy accepts what RFC 8032 accepts, and
the two differ in the keys alone: the standard policy reads them generously, and what it accepts is
accepted by RFC 8032 if and only if the key is canonical. -/
theorem verify_standard_iff (diagnostics : Bool) (publicKey signature digest : String) :
    ((verify ⟨.standard, diagnostics⟩ publicKey signature digest).value = true ↔
      ValidBy Generous.Decodes publicKey signature digest) ∧
    (ValidBy Rfc8032.Decodes publicKey signature digest ↔
      (verify ⟨.standard, diagnostics⟩ publicKey signature digest).value = true ∧
        KeyIsCanonical publicKey) := by
  refine ⟨verify_standard_iff_validBy, ?_⟩
  rw [verify_standard_iff_validBy]
  constructor
  · rintro ⟨key, R, S, message, A, r, hkey, hs, hmessage, hA, hrest⟩
    obtain ⟨hdecode, hcanonical⟩ := Rfc8032.decodes_iff.mp hA
    exact ⟨⟨key, R, S, message, A, r, hkey, hs, hmessage, Point.decode?_eq_some_iff.mp hdecode,
      hrest⟩, key, hkey, hcanonical⟩
  · rintro ⟨⟨key, R, S, message, A, r, hkey, hs, hmessage, hA, hrest⟩, key', hkey', hcanonical⟩
    rw [hkey, Except.ok.injEq, List.append_cancel_left_eq, ← Octets.ext_iff] at hkey'
    subst hkey'
    exact ⟨key, R, S, message, A, r, hkey, hs, hmessage,
      Rfc8032.decodes_iff.mpr ⟨Point.decode?_eq_some_iff.mpr hA, hcanonical⟩, hrest⟩

/-- The text of a key whose `y` is the prime and one more, which is read as the neutral point. -/
def unreducedKey : String :=
  "302a300506032b6570032100" ++ "eeffffffffffffffffffffffffffffffffffffffffffffffffffffffffffff7f"

/-- The text of the signature whose commitment is the neutral point and whose response is zero. -/
def neutralSignature : String :=
  "0100000000000000000000000000000000000000000000000000000000000000" ++
    "0000000000000000000000000000000000000000000000000000000000000000"

/-- **Keys are read too generously**: a key that RFC 8032 refuses has a valid signature. -/
theorem verify_standard_unreducedKey :
    (verify ⟨.standard, false⟩ unreducedKey neutralSignature "").value = true ∧
      ¬ValidBy Rfc8032.Decodes unreducedKey neutralSignature "" := by
  refine ⟨by decide +kernel, ?_⟩
  rintro ⟨key, R, S, message, A, r, hkey, -, -, hA, -⟩
  have hbytes : Hex.decode unreducedKey = .ok (Key.PublicDocument.header ++
      (Octets.ofNat 32 (prime + 1)).toList) := by
    decide +kernel
  rw [hbytes, Except.ok.injEq, List.append_cancel_left_eq, ← Octets.ext_iff] at hkey
  have hreduced := hA.reduced
  rw [← hkey] at hreduced
  exact absurd hreduced (by decide +kernel)

end HexSigner.Signer
