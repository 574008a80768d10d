import HexSigner.Proofs.Der.Field

/-!
# What a reading depends on

A decoder reads from left to right and stops at the first thing that is wrong, so what it makes of a
region is settled by the bytes up to the place where it stops, and by the number of bytes that there
are.  The bytes behind that place may be any others.  `Local` says this of a decoder: whatever region
it begins with, there are a number of bytes and an outcome such that every region of the same length
that begins with these bytes comes to this outcome after as many bytes.

Some decoders look at the next byte before they decide whether to take it.  They depend on one byte
more than they take, and the parameter `ahead` of `Local` is how many more there may be.

Locality is a matter of the steps: reading bytes is local, and so is one local decoder after another
(`Local.bind`), and a local decoder confined to a part of the region (`Local.within`).  How far a
decoder comes is another question; for headers there is an answer (`stopsWithin_headerOf`).
-/

set_option autoImplicit false

namespace HexSigner.Der

/-! ## Bytes that agree at the beginning -/

/-- Two lists of bytes are equally long, and their first `n` bytes are the same. -/
structure AgreeTo (n : Nat) (s t : List UInt8) : Prop where
  length_eq : s.length = t.length
  take_eq : s.take n = t.take n

namespace AgreeTo

variable {k m n : Nat} {s t : List UInt8}

theorem refl (n : Nat) (s : List UInt8) : AgreeTo n s s := ⟨rfl, rfl⟩

theorem mono (h : AgreeTo n s t) (hm : m ≤ n) : AgreeTo m s t where
  length_eq := h.length_eq
  take_eq := by rw [← Nat.min_eq_left hm, ← List.take_take, h.take_eq, List.take_take]

theorem drop (h : AgreeTo (k + n) s t) : AgreeTo n (s.drop k) (t.drop k) where
  length_eq := by rw [List.length_drop, List.length_drop, h.length_eq]
  take_eq := by
    have hdrop := congrArg (List.drop k) h.take_eq
    rwa [List.drop_take, List.drop_take, Nat.add_sub_cancel_left] at hdrop

theorem take (h : AgreeTo n s t) (k : Nat) : AgreeTo n (s.take k) (t.take k) where
  length_eq := by rw [List.length_take, List.length_take, h.length_eq]
  take_eq := by
    have hswap : ∀ u : List UInt8, (u.take k).take n = (u.take n).take k := fun u ↦ by
      rw [List.take_take, List.take_take, Nat.min_comm]
    rw [hswap, hswap, h.take_eq]

theorem head? (h : AgreeTo n s t) (hn : 0 < n) : s.head? = t.head? := by
  have hhead := congrArg List.head? h.take_eq
  rwa [List.head?_take, List.head?_take, if_neg hn.ne', if_neg hn.ne'] at hhead

theorem isEmpty (h : AgreeTo n s t) : s.isEmpty = t.isEmpty := by
  rw [Bool.eq_iff_iff, List.isEmpty_iff, List.isEmpty_iff, ← List.length_eq_zero_iff,
    ← List.length_eq_zero_iff, h.length_eq]

end AgreeTo

namespace Decoder

variable {α β : Type} {ahead : Nat}

/-! ## Local decoders -/

/-- What a reading comes to, `n` bytes behind the place in a region where it began. -/
def stopped (start offset n : Nat) (outcome : Except Fault α) (bytes : List UInt8) :
    Except Failure (α × Region) :=
  match outcome with
  | .error fault => .error ⟨fault, offset + n⟩
  | .ok a => .ok (a, ⟨start, offset + n, bytes.drop n⟩)

/-- A decoder depends on the bytes up to the place where it stops, and on at most `ahead` more. -/
def Local (ahead : Nat) (d : Decoder α) : Prop :=
  ∀ start offset s, ∃ n outcome, ∀ t, AgreeTo (n + ahead) s t →
    d ⟨start, offset, t⟩ = stopped start offset n outcome t

/-- A decoder that takes nothing is local if it does not look further than it may. -/
theorem Local.of_still {d : Decoder α}
    (h : ∀ start offset s, ∃ outcome, ∀ t, AgreeTo ahead s t →
      d ⟨start, offset, t⟩ = stopped start offset 0 outcome t) : Local ahead d := by
  intro start offset s
  obtain ⟨outcome, houtcome⟩ := h start offset s
  exact ⟨0, outcome, fun t ht ↦ houtcome t (by rwa [Nat.zero_add] at ht)⟩

theorem local_pure (a : α) : Local ahead (pure a : Decoder α) :=
  .of_still fun _ _ _ ↦ ⟨.ok a, fun _ _ ↦ rfl⟩

theorem local_fail (cause : Cause) : Local ahead (fail cause : Decoder α) :=
  .of_still fun _ _ _ ↦ ⟨.error ⟨cause, none⟩, fun _ _ ↦ rfl⟩

theorem local_failHere (cause : Cause) : Local ahead (failHere cause : Decoder α) :=
  .of_still fun _ offset _ ↦ ⟨.error ⟨cause, some offset⟩, fun _ _ ↦ rfl⟩

/-- The number of bytes that are left is no secret. -/
theorem local_remaining : Local ahead (fun r ↦ .ok (r.bytes.length, r) : Decoder Nat) :=
  .of_still fun start offset s ↦ ⟨.ok s.length, fun t ht ↦ by rw [ht.length_eq]; rfl⟩

theorem local_isFinished : Local ahead isFinished :=
  .of_still fun start offset s ↦ ⟨.ok s.isEmpty, fun t ht ↦ by rw [ht.isEmpty]; rfl⟩

theorem local_peek? (h : 0 < ahead) : Local ahead peek? :=
  .of_still fun start offset s ↦ ⟨.ok s.head?, fun t ht ↦ by rw [ht.head? h]; rfl⟩

/-- **One after the other.** -/
theorem Local.bind {d : Decoder α} {f : α → Decoder β} (hd : Local ahead d)
    (hf : ∀ a, Local ahead (f a)) : Local ahead (d >>= f) := by
  intro start offset s
  obtain ⟨n, outcome, hfirst⟩ := hd start offset s
  cases outcome with
  | error fault =>
    refine ⟨n, .error fault, fun t ht ↦ ?_⟩
    rw [bind_eq, hfirst t ht]
    rfl
  | ok a =>
    obtain ⟨m, outcome, hsecond⟩ := hf a start (offset + n) (s.drop n)
    refine ⟨n + m, outcome, fun t ht ↦ ?_⟩
    rw [bind_eq, hfirst t (ht.mono (by omega))]
    -- what is left of the two regions agrees as far as the second decoder looks
    rw [Nat.add_assoc] at ht
    refine (hsecond (t.drop n) ht.drop).trans ?_
    cases outcome with
    | error fault => rw [stopped, stopped, Nat.add_assoc]
    | ok b => rw [stopped, stopped, Nat.add_assoc, List.drop_drop]

theorem Local.located {d : Decoder α} (h : Local ahead d) : Local ahead (located d) := by
  intro start offset s
  obtain ⟨n, outcome, hd⟩ := h start offset s
  cases outcome with
  | error fault =>
    refine ⟨n, .error ⟨fault.cause, some (offset + n - start + fault.offset.getD 0)⟩,
      fun t ht ↦ ?_⟩
    rw [Decoder.located, hd t ht]
    rfl
  | ok a =>
    refine ⟨n, .ok a, fun t ht ↦ ?_⟩
    rw [Decoder.located, hd t ht]
    rfl

theorem local_require (k : Nat) : Local ahead (require k) := by
  refine .of_still fun start offset s ↦ ?_
  by_cases hk : k ≤ s.length
  · exact ⟨.ok (), fun t ht ↦ require_eq_of_le (ht.length_eq ▸ hk)⟩
  · refine ⟨.error (shortage k offset s.length), fun t ht ↦ ?_⟩
    rw [ht.length_eq, Nat.not_le] at hk
    rw [ht.length_eq]
    exact require_eq_of_lt hk

theorem local_bytes (k : Nat) : Local ahead (bytes k) := by
  refine (local_require k).bind fun _ start offset s ↦ ⟨k, .ok (s.take k), fun t ht ↦ ?_⟩
  rw [(ht.mono (Nat.le_add_right k ahead)).take_eq]
  rfl

theorem local_byte : Local ahead byte := (local_bytes 1).bind fun a ↦ local_pure (a.headD 0)

/-- **Confined to a part of the region.** -/
theorem Local.within {d : Decoder α} (h : Local ahead d) (k : Nat) :
    Local ahead (within k d) := by
  intro start offset s
  by_cases hk : k ≤ s.length
  · obtain ⟨n, outcome, hd⟩ := h offset offset (s.take k)
    cases outcome with
    | error fault =>
      refine ⟨n, .error fault, fun t ht ↦ ?_⟩
      rw [within_eq_of_le (ht.length_eq ▸ hk), hd _ (ht.take k)]
      rfl
    | ok a =>
      by_cases hn : k ≤ n
      · -- the part is used up, so it is the same part in both regions
        refine ⟨k, .ok a, fun t ht ↦ ?_⟩
        rw [within_eq_of_le (ht.length_eq ▸ hk), ← (ht.mono (Nat.le_add_right k ahead)).take_eq,
          hd _ (.refl _ _)]
        simp [stopped, List.drop_take, Nat.sub_eq_zero_of_le hn]
      · -- some of the part is left over, and the failure says how much
        refine ⟨n, .error ⟨.trailingData n (k - n), some n⟩, fun t ht ↦ ?_⟩
        have hkt : k ≤ t.length := ht.length_eq ▸ hk
        have hleft : ((t.take k).drop n).length = k - n := by
          rw [List.length_drop, List.length_take, Nat.min_eq_left hkt]
        have hne : ((t.take k).drop n).isEmpty = false := by
          rw [List.isEmpty_eq_false_iff, ← List.length_pos_iff, hleft]
          omega
        rw [within_eq_of_le hkt, hd _ (ht.take k)]
        simp [stopped, hne, hleft, Region.position]
  · refine ⟨0, .error (shortage k offset s.length), fun t ht ↦ ?_⟩
    rw [ht.length_eq, Nat.not_le] at hk
    rw [within_eq_of_lt hk, ht.length_eq]
    rfl

theorem Local.ite {p : Prop} [Decidable p] {d e : Decoder α} (hd : Local ahead d)
    (he : Local ahead e) : Local ahead (if p then d else e) := by
  split
  · exact hd
  · exact he

end Decoder

/-! ## Elements -/

open Decoder

section

variable {α : Type} {ahead : Nat}

theorem local_tagOfByte (b : UInt8) : Local ahead (tagOfByte b) := by
  rw [tagOfByte]
  split
  · exact local_pure _
  · exact local_fail _
  · exact local_fail _

theorem local_eachByte (n : Nat) : Local ahead (eachByte n) := by
  induction n with
  | zero => exact local_pure []
  | succ n ih => exact local_byte.bind fun b ↦ ih.bind fun rest ↦ local_pure (b :: rest)

theorem local_length (tag : Tag) : Local ahead (length tag) :=
  local_byte.bind fun first ↦ (local_pure first.toNat).ite <| (local_fail _).ite <|
    Local.ite
      ((local_eachByte _).bind fun _ ↦ (local_fail _).ite ((local_pure _).ite (local_fail _)))
      (local_fail _)

theorem local_header : Local ahead header :=
  local_byte.bind fun b ↦ (local_tagOfByte b).bind fun tag ↦
    (local_length tag).bind fun n ↦ local_pure (Header.mk tag n)

theorem local_headerOf (tag : Tag) : Local ahead (headerOf tag) :=
  local_header.bind fun h ↦ (local_pure h.length).ite (local_fail _)

theorem local_any : Local ahead any :=
  local_header.bind fun h ↦ (local_bytes h.length).bind fun contents ↦ local_pure (h.tag, contents)

theorem Decoder.Local.sequence {d : Decoder α} (h : Local ahead d) : Local ahead (sequence d) :=
  (local_headerOf .sequence).bind fun n ↦ h.within n

theorem local_bitStringContents (n : Nat) : Local ahead (bitStringContents n) :=
  (local_fail _).ite <| local_byte.bind fun _ ↦ (local_bytes (n - 1)).bind fun _ ↦
    (local_fail _).ite (local_pure _)

theorem local_octetString : Local ahead octetString :=
  (local_headerOf .octetString).bind fun n ↦ local_bytes n

theorem local_smallInteger : Local ahead smallInteger := by
  refine (local_headerOf .integer).bind fun n ↦ (local_fail _).ite <|
    (local_bytes n).bind fun contents ↦ ?_
  split
  · exact local_fail _
  · exact (local_pure _).ite (local_fail _)
  · exact (local_fail _).ite (local_pure _)
  · exact (local_fail _).ite (local_fail _)

theorem local_objectIdentifier : Local ahead objectIdentifier :=
  (local_headerOf .objectIdentifier).bind fun n ↦ (local_fail _).ite <|
    (local_bytes n).bind fun contents ↦ (local_pure contents).ite (local_fail _)

/-! ## Tagged fields -/

/-- The search for a field looks at a tag before it decides whether to take it. -/
theorem local_skipToField (h : 0 < ahead) (number fuel : Nat) :
    Local ahead (skipToField number fuel) := by
  induction fuel with
  | zero => exact local_pure false
  | succ fuel ih =>
    refine (local_peek? h).bind fun next ↦ ?_
    split
    · exact local_pure false
    · refine (local_tagOfByte _).bind fun tag ↦ ?_
      split
      · exact (local_any.bind fun _ ↦ ih).ite (local_pure _)
      · exact local_pure false

theorem local_bitStringField (h : 0 < ahead) (number : Nat) :
    Local ahead (bitStringField number) :=
  local_remaining.bind fun fuel ↦ (local_skipToField h number fuel).bind fun _ ↦
    Local.ite
      (local_header.bind fun header ↦ (local_bitStringContents header.length).bind fun contents ↦
        (local_fail _).ite (local_pure (some contents)))
      (local_pure none)

theorem local_field : Local ahead field := by
  refine local_header.bind fun h ↦ ?_
  split
  · exact (local_any.within h.length).bind fun _ ↦ local_pure ()
  · exact local_fail _

theorem local_fields (fuel : Nat) : Local ahead (fields fuel) := by
  induction fuel with
  | zero => exact local_pure ()
  | succ fuel ih =>
    exact local_isFinished.bind fun _ ↦ (local_pure ()).ite (local_field.located.bind fun _ ↦ ih)

end

/-! ## Where a reading stops -/

section

variable {α β : Type} {ahead : Nat} {d : Decoder α}

/-- The place in the document at which a reading stops, with a failure or without. -/
def Decoder.place : Except Failure (α × Region) → Nat
  | .error f => f.reached
  | .ok (_, r) => r.offset

/-- How many bytes of a document are read before the reading stops. -/
def Decoder.reach (d : Decoder α) (document : List UInt8) : Nat := place (d ⟨0, 0, document⟩)

theorem Decoder.place_stopped (start offset n : Nat) (outcome : Except Fault α) (s : List UInt8) :
    place (stopped start offset n outcome s) = offset + n := by
  cases outcome <;> rfl

/-- **Documents that agree as far as the reading comes are read as the same.** -/
theorem Decoder.Local.run_eq (h : Local ahead d) {s t : List UInt8}
    (hst : AgreeTo (reach d s + ahead) s t) : run d s = run d t := by
  obtain ⟨n, outcome, hd⟩ := h 0 0 s
  have hs := hd s (.refl _ _)
  have hreach : reach d s = n := by rw [reach, hs, place_stopped, Nat.zero_add]
  have ht := hd t (hreach ▸ hst)
  rw [run, run, hs, ht]
  cases outcome with
  | error fault => rfl
  | ok a =>
    have hleft : AgreeTo ahead (s.drop n) (t.drop n) := (hreach ▸ hst).drop
    simp only [stopped, hleft.isEmpty, hleft.length_eq]

/-- A decoder stops after at most `k` bytes. -/
def Decoder.StopsWithin (k : Nat) (d : Decoder α) : Prop := ∀ r, place (d r) ≤ r.offset + k

theorem Decoder.StopsWithin.bind {m n : Nat} {f : α → Decoder β} (hd : StopsWithin m d)
    (hf : ∀ a, StopsWithin n (f a)) : StopsWithin (m + n) (d >>= f) := by
  intro r
  have hfirst := hd r
  rw [bind_eq]
  cases hr : d r with
  | error e =>
    rw [hr] at hfirst
    exact hfirst.trans (by omega)
  | ok p =>
    rw [hr] at hfirst
    have hsecond := hf p.1 p.2
    simp only [place] at hfirst
    exact hsecond.trans (by omega)

theorem Decoder.StopsWithin.mono {m n : Nat} (h : StopsWithin m d) (hmn : m ≤ n) :
    StopsWithin n d :=
  fun r ↦ (h r).trans (Nat.add_le_add_left hmn _)

theorem Decoder.StopsWithin.ite {k : Nat} {p : Prop} [Decidable p] {e : Decoder α}
    (hd : StopsWithin k d) (he : StopsWithin k e) : StopsWithin k (if p then d else e) := by
  split
  · exact hd
  · exact he

theorem stopsWithin_pure (a : α) : StopsWithin 0 (pure a : Decoder α) := fun _ ↦ le_rfl

theorem stopsWithin_fail (cause : Cause) : StopsWithin 0 (fail cause : Decoder α) := fun _ ↦ le_rfl

theorem stopsWithin_require (k : Nat) : StopsWithin 0 (require k) := by
  intro r
  rw [require]
  split
  · exact le_rfl
  · split <;> exact le_rfl

theorem stopsWithin_byte : StopsWithin 1 byte := by
  have hbytes : StopsWithin (0 + 1) (bytes 1) := (stopsWithin_require 1).bind fun _ _ ↦ le_rfl
  exact hbytes.bind fun a ↦ stopsWithin_pure (a.headD 0)

theorem stopsWithin_tagOfByte (b : UInt8) : StopsWithin 0 (tagOfByte b) := by
  rw [tagOfByte]
  split
  · exact stopsWithin_pure _
  · exact stopsWithin_fail _
  · exact stopsWithin_fail _

theorem stopsWithin_eachByte (n : Nat) : StopsWithin n (eachByte n) := by
  induction n with
  | zero => exact stopsWithin_pure []
  | succ n ih =>
    exact (stopsWithin_byte.bind fun b ↦ ih.bind fun rest ↦ stopsWithin_pure (b :: rest)).mono
      (by omega)

/-- A length takes a mark and at most four digits. -/
theorem stopsWithin_length (tag : Tag) : StopsWithin 5 (length tag) := by
  refine stopsWithin_byte.bind (n := 4) fun first ↦ ?_
  have hfail : ∀ cause, StopsWithin 4 (fail cause : Decoder Nat) :=
    fun cause ↦ (stopsWithin_fail cause).mono (Nat.zero_le 4)
  refine ((stopsWithin_pure first.toNat).mono (Nat.zero_le 4)).ite ((hfail _).ite ?_)
  split
  · have hdigits : StopsWithin (first.toNat - 0x80 + 0) (do
        let n := bigEndian (← eachByte (first.toNat - 0x80))
        if maxLength < n then fail .overflow
        else if 0x80 ≤ n ∧ lengthMark n = first.toNat then return n
        else fail (.badLength tag)) :=
      (stopsWithin_eachByte _).bind fun digits ↦ (stopsWithin_fail _).ite
        ((stopsWithin_pure _).ite (stopsWithin_fail _))
    exact hdigits.mono (by omega)
  · exact hfail _

theorem stopsWithin_headerOf (tag : Tag) : StopsWithin 6 (headerOf tag) := by
  have hheader : StopsWithin (1 + (0 + (5 + 0))) header :=
    stopsWithin_byte.bind fun b ↦ (stopsWithin_tagOfByte b).bind fun tag ↦
      (stopsWithin_length tag).bind fun n ↦ stopsWithin_pure (Header.mk tag n)
  exact hheader.bind fun h ↦ (stopsWithin_pure h.length).ite (stopsWithin_fail _)

end

end HexSigner.Der
