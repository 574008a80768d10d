import HexSigner.Proofs.Curve.Encoding
import HexSigner.Proofs.Key.Pair

/-!
# What the check of a signature means

The check compares bytes: it encodes `[S] B - [k] A` and compares that with the first half of the
signature.  In terms of points this says that the first half encodes a point `R` in the one way in
which points are written, and that `R` is that difference (`check_standard_iff`).  In particular
the policy that looks at no points accepts only commitments that decode.

Three facts follow.  What signing produces is accepted (`check_sign`).  A commitment goes with one
response only (`response_unique`), because responses are reduced and the base point has order
`groupOrder`.  And a multiple of the base point has small order only if it is the neutral point
(`hasSmallOrder_multiple_base_iff`), which the secret scalar of a seed never brings about, since
clamping makes it a multiple of eight that is too small to be one of `8 * groupOrder`.
-/

set_option autoImplicit false

namespace HexSigner.Ed25519

open Curve

variable {policy policy' : VerificationPolicy} {key : PublicKey} {message : List UInt8}
  {s s' : Signature} {A : CurveGroup}

/-! ## The check in terms of points -/

theorem publicKey?_eq_some_iff {bytes : Octets 32} {p : Point} :
    publicKey? bytes = some ⟨bytes, p⟩ ↔ Point.decode? bytes = some p := by
  simp [publicKey?]

/-- The bytes that the check expects are the encoding of `[S] B - [k] A`, as RFC 8032 reads it. -/
theorem expectedCommitment_eq_iff (hA : key.point.Denotes A) {k response : Nat}
    {bytes : Octets 32} :
    expectedCommitment key k response = bytes ↔
      ∃ r, Rfc8032.Decodes bytes r ∧ r.Denotes (response • generator - k • A) := by
  have hpoint := ((Extended.denotes_multiple hA.neg k).add
    (Extended.denotes_multiple denotes_base response)).toPoint
  rw [smul_neg, neg_add_eq_sub] at hpoint
  constructor
  · rintro rfl
    exact ⟨_, Rfc8032.decodes_encode hpoint.onCurve, hpoint⟩
  · rintro ⟨r, hr, hden⟩
    rw [hr.eq_encode, expectedCommitment, (hpoint.eq_iff hden).mpr rfl]

theorem pointsAllowed_standard (key : PublicKey) (commitment : Octets 32) :
    pointsAllowed .standard key commitment = true := rfl

theorem pointsAllowed_strict_iff {commitment : Octets 32} :
    pointsAllowed .strict key commitment = true ↔
      ∃ r, Point.decode? commitment = some r ∧
        r.hasSmallOrder = false ∧ key.point.hasSmallOrder = false := by
  -- not `rw [pointsAllowed]`: its equations for each policy would evaluate the points
  unfold pointsAllowed
  cases Point.decode? commitment with
  | none => simp
  | some r => simp

theorem check_eq_ok_iff :
    check policy key message s = .ok () ↔
      s.response.toNat < groupOrder ∧ pointsAllowed policy key s.commitment = true ∧
        expectedCommitment key (challenge s.commitment key.bytes message) s.response.toNat =
          s.commitment := by
  rw [check]
  simp only
  split
  · rename_i h
    refine ⟨fun h' ↦ ?_, fun h' ↦ absurd h'.1 (not_lt.mpr h)⟩
    cases h'
  · rename_i hlt
    rw [not_le] at hlt
    split
    · rename_i h
      rw [Bool.not_eq_true'] at h
      simp [h]
    · rename_i h
      rw [Bool.not_eq_true', Bool.not_eq_false] at h
      simp [h, hlt]

/-- **The standard check.**  The response is reduced, and the commitment is the encoding of the
point that it has to be. -/
theorem check_standard_iff (hA : key.point.Denotes A) :
    check .standard key message s = .ok () ↔
      s.response.toNat < groupOrder ∧ ∃ r, Rfc8032.Decodes s.commitment r ∧
        r.Denotes (s.response.toNat • generator -
          challenge s.commitment key.bytes message • A) := by
  rw [check_eq_ok_iff, expectedCommitment_eq_iff hA]
  exact and_congr_right fun _ ↦ and_iff_right (pointsAllowed_standard key s.commitment)

/-- The standard check is the verification equation without the cofactor, `[S] B = R + [k] A`. -/
theorem check_standard_iff_equation (h : key.point.OnCurve) :
    check .standard key message s = .ok () ↔
      s.response.toNat < groupOrder ∧ ∃ r, Rfc8032.Decodes s.commitment r ∧
        Point.base.times s.response.toNat =
          r.add (key.point.times (challenge s.commitment key.bytes message)) := by
  obtain ⟨A, hA⟩ := (Point.onCurve_iff_denotes key.point).mp h
  rw [check_standard_iff hA]
  refine and_congr_right fun _ ↦ exists_congr fun r ↦ and_congr_right fun hr ↦ ?_
  obtain ⟨R, hR⟩ := (Point.onCurve_iff_denotes r).mp hr.onCurve
  rw [(denotes_base.times _).eq_iff (hR.add (hA.times _)), ← sub_eq_iff_eq_add]
  exact ⟨fun hden ↦ ((hR.eq_iff hden).mp rfl).symm, fun heq ↦ heq ▸ hR⟩

/-- **The strict check** is the standard one and a condition on the two points. -/
theorem check_strict_iff :
    check .strict key message s = .ok () ↔
      check .standard key message s = .ok () ∧ ∃ r, Point.decode? s.commitment = some r ∧
        r.hasSmallOrder = false ∧ key.point.hasSmallOrder = false := by
  rw [check_eq_ok_iff, check_eq_ok_iff, pointsAllowed_strict_iff]
  constructor
  · rintro ⟨hlt, hpoints, hR⟩
    exact ⟨⟨hlt, pointsAllowed_standard _ _, hR⟩, hpoints⟩
  · rintro ⟨⟨hlt, -, hR⟩, hpoints⟩
    exact ⟨hlt, hpoints, hR⟩

/-- Whatever the policy, what is accepted is accepted by the standard one. -/
theorem check_standard_of_check (h : check policy key message s = .ok ()) :
    check .standard key message s = .ok () := by
  cases policy with
  | standard => exact h
  | strict => exact (check_strict_iff.mp h).1

/-- **A commitment goes with one response**, whichever policies accept the two signatures. -/
theorem response_unique (hA : key.point.Denotes A) (hs : check policy key message s = .ok ())
    (hs' : check policy' key message s' = .ok ()) (h : s.commitment = s'.commitment) :
    s.response = s'.response := by
  obtain ⟨hlt, r, hr, hden⟩ := (check_standard_iff hA).mp (check_standard_of_check hs)
  obtain ⟨hlt', r', hr', hden'⟩ := (check_standard_iff hA).mp (check_standard_of_check hs')
  have hrr : r = r' := by
    have hd := (Rfc8032.decodes_iff.mp hr).1
    rw [h, (Rfc8032.decodes_iff.mp hr').1, Option.some_inj] at hd
    exact hd.symm
  have hpoints := (hden.eq_iff hden').mp hrr
  -- the challenge hashes the commitment, so it is the same for both and `[k] A` cancels
  rw [h, sub_left_inj, nsmul_eq_nsmul_iff_modEq, addOrderOf_generator] at hpoints
  exact Octets.toNat_injective (hpoints.eq_of_lt_of_lt hlt hlt')

/-! ## Small order -/

/-- **A multiple of the base point has small order only if it is the neutral point**, because the
order of the base point is odd. -/
theorem hasSmallOrder_multiple_base_iff (n : Nat) :
    (Point.base.multiple n).hasSmallOrder = true ↔ groupOrder ∣ n := by
  rw [(denotes_base.multiple n).hasSmallOrder_iff, ← mul_nsmul', ← addOrderOf_dvd_iff_nsmul_eq_zero,
    addOrderOf_generator]
  exact Nat.Coprime.dvd_mul_left (by decide +kernel)

theorem clamp_eq (n : Nat) : clamp n = 2 ^ 254 + n % 2 ^ 254 / 8 * 8 := rfl

theorem two_pow_252_lt_groupOrder : 2 ^ 252 < groupOrder := by decide +kernel

/-- Clamping yields no multiple of `groupOrder`: it yields a positive multiple of eight, and the
first common multiple is larger than anything clamped. -/
theorem not_dvd_clamp (n : Nat) : ¬groupOrder ∣ clamp n := by
  intro h
  have hclamp : clamp n = 8 * (2 ^ 251 + n % 2 ^ 254 / 8) := by
    rw [clamp_eq]
    omega
  have hcoprime : Nat.Coprime groupOrder 8 := by decide +kernel
  have hdvd := hcoprime.dvd_of_dvd_mul_left (hclamp ▸ h)
  -- what is left of the clamped number is below `2 ^ 252`, and so below `groupOrder`
  have hle := Nat.le_of_dvd (by omega) hdvd
  have hlt := two_pow_252_lt_groupOrder
  have hmod : n % 2 ^ 254 < 2 ^ 254 := Nat.mod_lt _ (by decide)
  omega

theorem not_dvd_secretScalar (seed : Octets 32) : ¬groupOrder ∣ secretScalar seed := by
  rw [secretScalar, Nat.dvd_mod_iff (Nat.dvd_refl groupOrder)]
  exact not_dvd_clamp _

/-! ## Signing -/

theorem denotes_publicKeyOfSeed (seed : Octets 32) :
    (publicKeyOfSeed seed).point.Denotes (secretScalar seed • generator) :=
  denotes_base.multiple (secretScalar seed)

/-- The public key of a seed is one that reading can yield. -/
theorem publicKey?_publicKeyOfSeed (seed : Octets 32) :
    publicKey? (publicKeyOfSeed seed).bytes = some (publicKeyOfSeed seed) :=
  publicKey?_eq_some_iff.mpr (Point.decode?_encode (denotes_publicKeyOfSeed seed).onCurve)

/-- **What signing produces is accepted.** -/
theorem check_sign (seed : Octets 32) (message : List UInt8) :
    check .standard (publicKeyOfSeed seed) message (sign seed message) = .ok () := by
  have hnonce := denotes_base.multiple (nonce seed message)
  have hlt : ∀ n, n % groupOrder < groupOrder := fun n ↦ Nat.mod_lt n (by decide)
  have hfits : ∀ n, (Octets.ofNat 32 (n % groupOrder)).toNat = n % groupOrder := fun n ↦
    Octets.toNat_ofNat_of_lt ((hlt n).trans (by decide))
  -- the commitment is the point `[r] B`; what remains is `r = (r + k a) - k a` modulo the order
  rw [check_standard_iff (denotes_publicKeyOfSeed seed)]
  simp only [sign, Signature.commitment_ofParts, Signature.response_ofParts, hfits]
  refine ⟨hlt _, _, Rfc8032.decodes_encode hnonce.onCurve, ?_⟩
  have hgen : ∀ n, (n % groupOrder) • generator = n • generator := fun n ↦ by
    rw [← addOrderOf_generator, mod_addOrderOf_nsmul]
  rwa [hgen, add_nsmul, mul_nsmul', add_sub_cancel_right]

/-- The strict policy agrees, unless the nonce is zero. -/
theorem check_strict_sign (seed : Octets 32) (message : List UInt8) (h : nonce seed message ≠ 0) :
    check .strict (publicKeyOfSeed seed) message (sign seed message) = .ok () := by
  have hnonce : ¬groupOrder ∣ nonce seed message := fun hdvd ↦
    h (Nat.eq_zero_of_dvd_of_lt hdvd (Nat.mod_lt _ (by decide)))
  have hsmall : ∀ n, ¬groupOrder ∣ n → (Point.base.multiple n).hasSmallOrder = false := by
    intro n hn
    rwa [← Bool.not_eq_true, hasSmallOrder_multiple_base_iff]
  refine check_strict_iff.mpr ⟨check_sign seed message, _, ?_, hsmall _ hnonce,
    hsmall _ (not_dvd_secretScalar seed)⟩
  rw [sign, Signature.commitment_ofParts]
  exact Point.decode?_encode (denotes_base.multiple _).onCurve

end HexSigner.Ed25519
