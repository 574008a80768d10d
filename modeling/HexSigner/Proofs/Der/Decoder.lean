import HexSigner.Der.Decoder

/-!
# What a decoder reads

A decoder is described by a grammar: a relation between bytes and the value that they stand for.
`Reads d G` says that `d` succeeds with a value exactly if the region begins with bytes that `G`
relates to that value, and that it takes these bytes and nothing else.  It says nothing about the
faults of `d`.

Some decoders look at what follows before they decide, and only make sense up to the end of a
region.  For these there is `ReadsWhole d G`: `d` succeeds and uses the region up exactly if `G`
relates all of its bytes to the value.  A decoder that reads `G` reads `G` as a whole, and a
sequence of decoders reads one grammar after the other, in either sense.

Between the two there is `ReadsBefore d G`, for a decoder that looks at what follows and leaves it:
here `G` relates the bytes that are taken to the bytes that follow as well.
-/

set_option autoImplicit false

namespace HexSigner.Der

/-- `r'` is what is left of `r` after `taken` was taken from its front. -/
structure Region.Took (r : Region) (taken : List UInt8) (r' : Region) : Prop where
  start : r'.start = r.start
  offset : r'.offset = r.offset + taken.length
  bytes : r.bytes = taken ++ r'.bytes

namespace Region.Took

variable {r r' r'' : Region} {s t : List UInt8}

theorem nil (r : Region) : r.Took [] r := ⟨rfl, rfl, rfl⟩

theorem eq_of_nil (h : r.Took [] r') : r' = r := by
  obtain ⟨hs, ho, hb⟩ := h
  cases r
  cases r'
  simp_all

theorem trans (h : r.Took s r') (h' : r'.Took t r'') : r.Took (s ++ t) r'' where
  start := h'.start.trans h.start
  offset := by rw [h'.offset, h.offset, List.length_append, Nat.add_assoc]
  bytes := by rw [h.bytes, h'.bytes, List.append_assoc]

/-- Bytes that were taken together can be taken one part after the other. -/
theorem exists_of_append (h : r.Took (s ++ t) r'') : ∃ r', r.Took s r' ∧ r'.Took t r'' := by
  refine ⟨⟨r.start, r.offset + s.length, t ++ r''.bytes⟩, ⟨rfl, rfl, ?_⟩, ⟨h.start, ?_, rfl⟩⟩
  · rw [h.bytes, List.append_assoc]
  · rw [h.offset, List.length_append, Nat.add_assoc]

theorem bytes_eq (h : r.Took t r') (hr : r'.bytes = []) : r.bytes = t := by
  rw [h.bytes, hr, List.append_nil]

end Region.Took

namespace Decoder

variable {α β : Type}

/-! ## Success, step by step -/

/-- One decoder after another, at a region. -/
theorem bind_eq (d : Decoder α) (f : α → Decoder β) (r : Region) :
    (d >>= f) r = d r >>= fun p ↦ f p.1 p.2 := rfl

theorem bind_eq_ok_iff {d : Decoder α} {f : α → Decoder β} {r : Region} {x : β × Region} :
    (d >>= f) r = .ok x ↔ ∃ a r', d r = .ok (a, r') ∧ f a r' = .ok x := by
  rw [bind_eq]
  cases h : d r with
  | error e => simp [bind, Except.bind]
  | ok p =>
    simp only [bind, Except.bind, Except.ok.injEq]
    exact ⟨fun h' ↦ ⟨p.1, p.2, rfl, h'⟩, fun ⟨_, _, hp, h'⟩ ↦ hp ▸ h'⟩

theorem pure_eq_ok_iff {a b : α} {r r' : Region} :
    (pure a : Decoder α) r = .ok (b, r') ↔ a = b ∧ r = r' := by
  have hpure : (pure a : Decoder α) r = .ok (a, r) := rfl
  rw [hpure, Except.ok.injEq, Prod.mk.injEq]

theorem fail_ne_ok {cause : Cause} {r : Region} {x : α × Region} :
    (fail cause : Decoder α) r ≠ .ok x := by
  intro h
  cases h

theorem located_eq_ok_iff {d : Decoder α} {r : Region} {x : α × Region} :
    located d r = .ok x ↔ d r = .ok x := by
  rw [located]
  cases h : d r with
  | error f => simp
  | ok p => simp

theorem require_eq_ok_iff {n : Nat} {r : Region} {x : Unit × Region} :
    require n r = .ok x ↔ n ≤ r.bytes.length ∧ x = ((), r) := by
  rw [require]
  split
  · rename_i h
    rw [Except.ok.injEq]
    exact ⟨fun h' ↦ ⟨h, h'.symm⟩, fun h' ↦ h'.2.symm⟩
  · rename_i h
    refine ⟨fun h' ↦ ?_, fun h' ↦ absurd h'.1 h⟩
    split at h' <;> cases h'

/-! ## Bytes that are there or not -/

/-- The fault of a region of which `length` bytes are left when `k` are asked for. -/
def shortage (k offset length : Nat) : Fault :=
  if maxLength < offset + k then ⟨.overflow, none⟩
  else ⟨.incomplete (offset + k) (offset + length), some offset⟩

theorem require_eq_of_le {k : Nat} {r : Region} (hk : k ≤ r.bytes.length) :
    require k r = .ok ((), r) :=
  require_eq_ok_iff.mpr ⟨hk, rfl⟩

theorem require_eq_of_lt {k : Nat} {r : Region} (hk : r.bytes.length < k) :
    require k r = .error ⟨shortage k r.offset r.bytes.length, r.offset⟩ := by
  rw [require, if_neg (Nat.not_le.mpr hk), shortage]
  split <;> rfl

/-- Confined to the next `k` bytes of a region, which are there. -/
theorem within_eq_of_le {d : Decoder α} {k start offset : Nat} {s : List UInt8}
    (hk : k ≤ s.length) :
    within k d ⟨start, offset, s⟩ =
      match d ⟨offset, offset, s.take k⟩ with
      | .error f => .error f
      | .ok (a, inner) =>
        if inner.bytes.isEmpty then .ok (a, ⟨start, offset + k, s.drop k⟩)
        else .error ⟨⟨.trailingData inner.position inner.bytes.length, some inner.position⟩,
          inner.offset⟩ := by
  rw [within, bind_eq, require_eq_of_le hk]
  rfl

/-- Confined to more bytes than there are. -/
theorem within_eq_of_lt {d : Decoder α} {k start offset : Nat} {s : List UInt8}
    (hk : s.length < k) :
    within k d ⟨start, offset, s⟩ = .error ⟨shortage k offset s.length, offset⟩ := by
  rw [within, bind_eq, require_eq_of_lt hk]
  rfl

/-! ## Reading a grammar -/

/-- The decoder takes from the front of a region what the grammar describes. -/
def Reads (d : Decoder α) (G : List UInt8 → α → Prop) : Prop :=
  ∀ r a r', d r = .ok (a, r') ↔ ∃ taken, r.Took taken r' ∧ G taken a

/-- The decoder uses a region up exactly if the grammar describes all of it. -/
def ReadsWhole (d : Decoder α) (G : List UInt8 → α → Prop) : Prop :=
  ∀ r a, (∃ r', d r = .ok (a, r') ∧ r'.bytes = []) ↔ G r.bytes a

/-- The decoder takes from the front of a region what the grammar describes, and the grammar sees
the bytes that follow, too. -/
def ReadsBefore (d : Decoder α) (G : List UInt8 → List UInt8 → α → Prop) : Prop :=
  ∀ r a r', d r = .ok (a, r') ↔ ∃ taken, r.Took taken r' ∧ G taken r'.bytes a

/-- One grammar after the other: the second may depend on the value of the first. -/
def Then (G : List UInt8 → α → Prop) (H : α → List UInt8 → β → Prop) (bytes : List UInt8) (b : β) :
    Prop := ∃ s t a, bytes = s ++ t ∧ G s a ∧ H a t b

variable {G : List UInt8 → α → Prop}

theorem Reads.readsWhole {d : Decoder α} (h : Reads d G) : ReadsWhole d G := by
  intro r a
  constructor
  · rintro ⟨r', hd, hr⟩
    obtain ⟨taken, htook, hG⟩ := (h r a r').mp hd
    rwa [htook.bytes_eq hr]
  · intro hG
    refine ⟨⟨r.start, r.offset + r.bytes.length, []⟩, ?_, rfl⟩
    exact (h r a _).mpr ⟨r.bytes, ⟨rfl, rfl, (List.append_nil _).symm⟩, hG⟩

/-- A decoder that reads a grammar goes on behind the bytes that the grammar describes. -/
theorem Reads.bind_apply {d : Decoder α} {G : List UInt8 → α → Prop} (h : Reads d G)
    {taken : List UInt8} {a : α} (hG : G taken a) (f : α → Decoder β) (start offset : Nat)
    (rest : List UInt8) :
    (d >>= f) ⟨start, offset, taken ++ rest⟩ = f a ⟨start, offset + taken.length, rest⟩ := by
  have hd := (h ⟨start, offset, taken ++ rest⟩ a ⟨start, offset + taken.length, rest⟩).mpr
    ⟨taken, ⟨rfl, rfl, rfl⟩, hG⟩
  rw [bind_eq, hd]
  rfl

theorem ReadsBefore.bind {d : Decoder α} {f : α → Decoder β}
    {K : List UInt8 → List UInt8 → α → Prop} {H : α → List UInt8 → β → Prop}
    (hd : ReadsBefore d K) (hf : ∀ a, Reads (f a) (H a)) :
    ReadsBefore (d >>= f) fun bytes next b ↦
      ∃ s t a, bytes = s ++ t ∧ K s (t ++ next) a ∧ H a t b := by
  intro r b r'
  rw [bind_eq_ok_iff]
  constructor
  · rintro ⟨a, r₁, h₁, h₂⟩
    obtain ⟨s, hs, hK⟩ := (hd r a r₁).mp h₁
    obtain ⟨t, ht, hH⟩ := (hf a r₁ b r').mp h₂
    exact ⟨s ++ t, hs.trans ht, s, t, a, rfl, ht.bytes ▸ hK, hH⟩
  · rintro ⟨_, htook, s, t, a, rfl, hK, hH⟩
    obtain ⟨r₁, hs, ht⟩ := htook.exists_of_append
    exact ⟨a, r₁, (hd r a r₁).mpr ⟨s, hs, ht.bytes ▸ hK⟩, (hf a r₁ b r').mpr ⟨t, ht, hH⟩⟩

theorem ReadsBefore.bind_readsWhole {d : Decoder α} {f : α → Decoder β}
    {K : List UInt8 → List UInt8 → α → Prop} {H : α → List UInt8 → β → Prop}
    (hd : ReadsBefore d K) (hf : ∀ a, ReadsWhole (f a) (H a)) :
    ReadsWhole (d >>= f) fun bytes b ↦ ∃ s t a, bytes = s ++ t ∧ K s t a ∧ H a t b := by
  intro r b
  constructor
  · rintro ⟨r', h, hr⟩
    obtain ⟨a, r₁, h₁, h₂⟩ := bind_eq_ok_iff.mp h
    obtain ⟨s, hs, hK⟩ := (hd r a r₁).mp h₁
    exact ⟨s, r₁.bytes, a, hs.bytes, hK, (hf a r₁ b).mp ⟨r', h₂, hr⟩⟩
  · rintro ⟨s, t, a, hb, hK, hH⟩
    have hs : r.Took s ⟨r.start, r.offset + s.length, t⟩ := ⟨rfl, rfl, hb⟩
    obtain ⟨r', h₂, hr⟩ := (hf a ⟨r.start, r.offset + s.length, t⟩ b).mpr hH
    exact ⟨r', bind_eq_ok_iff.mpr ⟨a, _, (hd r a _).mpr ⟨s, hs, hK⟩, h₂⟩, hr⟩

theorem ReadsBefore.congr {d : Decoder α} {K H : List UInt8 → List UInt8 → α → Prop}
    (h : ReadsBefore d K) (hKH : ∀ t next a, K t next a ↔ H t next a) : ReadsBefore d H := by
  intro r a r'
  rw [h r a r']
  simp only [hKH]

theorem Reads.bind {d : Decoder α} {f : α → Decoder β} {H : α → List UInt8 → β → Prop}
    (hd : Reads d G) (hf : ∀ a, Reads (f a) (H a)) : Reads (d >>= f) (Then G H) :=
  ReadsBefore.bind (K := fun s _ a ↦ G s a) hd hf

theorem Reads.bind_readsWhole {d : Decoder α} {f : α → Decoder β} {H : α → List UInt8 → β → Prop}
    (hd : Reads d G) (hf : ∀ a, ReadsWhole (f a) (H a)) : ReadsWhole (d >>= f) (Then G H) :=
  ReadsBefore.bind_readsWhole (K := fun s _ a ↦ G s a) hd hf

/-- Bytes that a decoder reads as a whole have one value. -/
theorem ReadsWhole.unique {d : Decoder α} (h : ReadsWhole d G) {bytes : List UInt8} {a b : α}
    (ha : G bytes a) (hb : G bytes b) : a = b := by
  obtain ⟨r, hr, -⟩ := (h ⟨0, 0, bytes⟩ a).mpr ha
  obtain ⟨r', hr', -⟩ := (h ⟨0, 0, bytes⟩ b).mpr hb
  rw [hr, Except.ok.injEq, Prod.mk.injEq] at hr'
  exact hr'.1

/-- What a decoder reads is not the beginning of anything else that it reads. -/
theorem Reads.unique_of_append {d : Decoder α} (h : Reads d G) {bytes rest : List UInt8} {a b : α}
    (ha : G bytes a) (hb : G (bytes ++ rest) b) : a = b ∧ rest = [] := by
  have hfront := (h ⟨0, 0, bytes ++ rest⟩ a ⟨0, 0 + bytes.length, rest⟩).mpr
    ⟨bytes, ⟨rfl, rfl, rfl⟩, ha⟩
  have hall := (h ⟨0, 0, bytes ++ rest⟩ b ⟨0, 0 + (bytes ++ rest).length, []⟩).mpr
    ⟨bytes ++ rest, ⟨rfl, rfl, (List.append_nil _).symm⟩, hb⟩
  rw [hfront, Except.ok.injEq, Prod.mk.injEq, Region.mk.injEq] at hall
  exact ⟨hall.1, hall.2.2.2⟩

/-- What a decoder reads as a whole is the same if its value is changed afterwards. -/
theorem ReadsWhole.bind_pure {d : Decoder α} (h : ReadsWhole d G) (f : α → β) :
    ReadsWhole (d >>= fun a ↦ pure (f a)) fun t b ↦ ∃ a, G t a ∧ f a = b := by
  intro r b
  constructor
  · rintro ⟨r', hd, hr⟩
    obtain ⟨a, r₁, h₁, h₂⟩ := bind_eq_ok_iff.mp hd
    obtain ⟨hf, rfl⟩ := pure_eq_ok_iff.mp h₂
    exact ⟨a, (h r a).mp ⟨r₁, h₁, hr⟩, hf⟩
  · rintro ⟨a, hG, hf⟩
    obtain ⟨r₁, h₁, hr⟩ := (h r a).mpr hG
    exact ⟨r₁, bind_eq_ok_iff.mpr ⟨a, r₁, h₁, pure_eq_ok_iff.mpr ⟨hf, rfl⟩⟩, hr⟩

theorem reads_pure (a : α) : Reads (pure a : Decoder α) fun t b ↦ t = [] ∧ a = b := by
  intro r b r'
  rw [pure_eq_ok_iff]
  constructor
  · rintro ⟨rfl, rfl⟩
    exact ⟨[], .nil r, rfl, rfl⟩
  · rintro ⟨_, htook, rfl, rfl⟩
    exact ⟨rfl, htook.eq_of_nil.symm⟩

theorem reads_fail (cause : Cause) : Reads (fail cause : Decoder α) fun _ _ ↦ False := by
  intro r a r'
  exact ⟨fun h ↦ absurd h fail_ne_ok, fun ⟨_, _, h⟩ ↦ h.elim⟩

/-- A decoder reads every grammar that describes the same bytes. -/
theorem Reads.congr {d : Decoder α} {H : List UInt8 → α → Prop} (h : Reads d G)
    (hGH : ∀ t a, G t a ↔ H t a) : Reads d H := by
  intro r a r'
  rw [h r a r']
  simp only [hGH]

section Choice

variable {p : Prop} [Decidable p] {d e : Decoder α} {H : List UInt8 → α → Prop} {cause : Cause}

/-- A choice reads what the branch at hand reads. -/
theorem Reads.ite (hd : p → Reads d G) (he : ¬p → Reads e H) :
    Reads (if p then d else e) fun t a ↦ p ∧ G t a ∨ ¬p ∧ H t a := by
  by_cases hp : p
  · simp only [hp, if_true, true_and, not_true, false_and, or_false]
    exact hd hp
  · simp only [hp, if_false, false_and, not_false_iff, true_and, false_or]
    exact he hp

/-- A condition without which a decoder fails becomes a part of the grammar. -/
theorem Reads.accept (hd : p → Reads d G) :
    Reads (if p then d else fail cause) fun t a ↦ p ∧ G t a :=
  (Reads.ite hd fun _ ↦ reads_fail cause).congr fun t a ↦ by rw [and_false, or_false]

theorem Reads.refuse (he : ¬p → Reads e H) :
    Reads (if p then fail cause else e) fun t a ↦ ¬p ∧ H t a :=
  (Reads.ite (fun _ ↦ reads_fail cause) he).congr fun t a ↦ by rw [and_false, false_or]

end Choice

theorem Reads.located {d : Decoder α} (h : Reads d G) : Reads (located d) G := by
  intro r a r'
  rw [located_eq_ok_iff]
  exact h r a r'

theorem ReadsWhole.located {d : Decoder α} (h : ReadsWhole d G) :
    ReadsWhole (Decoder.located d) G := by
  intro r a
  simp only [located_eq_ok_iff]
  exact h r a

theorem ReadsWhole.congr {d : Decoder α} {H : List UInt8 → α → Prop} (h : ReadsWhole d G)
    (hGH : ∀ t a, G t a ↔ H t a) : ReadsWhole d H := by
  intro r a
  rw [h r a, hGH]

/-! ## Bytes and regions -/

theorem reads_bytes (n : Nat) : Reads (bytes n) fun t a ↦ t.length = n ∧ a = t := by
  intro r a r'
  rw [bytes, bind_eq_ok_iff]
  constructor
  · rintro ⟨_, r₁, h₁, h₂⟩
    obtain ⟨hn, hr⟩ := require_eq_ok_iff.mp h₁
    cases hr
    cases h₂
    have hlen : (r.bytes.take n).length = n := by rw [List.length_take, Nat.min_eq_left hn]
    exact ⟨r.bytes.take n, ⟨rfl, by rw [hlen], (List.take_append_drop n r.bytes).symm⟩, hlen, rfl⟩
  · rintro ⟨_, htook, rfl, rfl⟩
    have hle : a.length ≤ r.bytes.length := by
      rw [htook.bytes, List.length_append]
      omega
    refine ⟨(), r, require_eq_ok_iff.mpr ⟨hle, rfl⟩, ?_⟩
    have hr' : r' = ⟨r.start, r.offset + a.length, r'.bytes⟩ := by
      rw [← htook.start, ← htook.offset]
    rw [hr', htook.bytes, List.take_left, List.drop_left]

theorem reads_byte : Reads byte fun t b ↦ t = [b] := by
  have h := (reads_bytes 1).bind fun a ↦ reads_pure (a.headD 0)
  refine Reads.congr h fun t b ↦ ?_
  constructor
  · rintro ⟨s, _, a, rfl, ⟨hlen, rfl⟩, rfl, rfl⟩
    obtain ⟨c, rfl⟩ := List.length_eq_one_iff.mp hlen
    rfl
  · rintro rfl
    exact ⟨[b], [], [b], rfl, ⟨rfl, rfl⟩, rfl, rfl⟩

/-- Confined to `n` bytes, a decoder has to read them as a whole. -/
theorem ReadsWhole.within {d : Decoder α} (h : ReadsWhole d G) (n : Nat) :
    Reads (within n d) fun t a ↦ t.length = n ∧ G t a := by
  intro r a r'
  rw [Decoder.within, bind_eq_ok_iff]
  constructor
  · rintro ⟨_, r₁, h₁, h₂⟩
    obtain ⟨hn, hr⟩ := require_eq_ok_iff.mp h₁
    cases hr
    have hlen : (r.bytes.take n).length = n := by rw [List.length_take, Nat.min_eq_left hn]
    cases hd : d ⟨r.offset, r.offset, r.bytes.take n⟩ with
    | error f => simp [hd] at h₂
    | ok p =>
      obtain ⟨b, inner⟩ := p
      simp only [hd] at h₂
      split at h₂
      · rename_i he
        cases h₂
        have hG := (h ⟨r.offset, r.offset, r.bytes.take n⟩ a).mp
          ⟨inner, hd, List.isEmpty_iff.mp he⟩
        exact ⟨r.bytes.take n, ⟨rfl, by rw [hlen], (List.take_append_drop n r.bytes).symm⟩, hlen,
          hG⟩
      · cases h₂
  · rintro ⟨t, htook, rfl, hG⟩
    have hle : t.length ≤ r.bytes.length := by
      rw [htook.bytes, List.length_append]
      omega
    refine ⟨(), r, require_eq_ok_iff.mpr ⟨hle, rfl⟩, ?_⟩
    obtain ⟨inner, hd, he⟩ := (h ⟨r.offset, r.offset, t⟩ a).mpr hG
    have hr' : r' = ⟨r.start, r.offset + t.length, r'.bytes⟩ := by
      rw [← htook.start, ← htook.offset]
    rw [hr', htook.bytes, List.take_left, List.drop_left]
    simp [hd, he]

/-- Reading a document succeeds with a value exactly if the grammar describes the document. -/
theorem ReadsWhole.run_eq_ok_iff {d : Decoder α} (h : ReadsWhole d G) {document : List UInt8}
    {a : α} : run d document = .ok a ↔ G document a := by
  rw [← h ⟨0, 0, document⟩ a, run]
  cases hd : d ⟨0, 0, document⟩ with
  | error f => simp
  | ok p =>
    obtain ⟨b, r⟩ := p
    simp only [Except.ok.injEq, Prod.mk.injEq]
    constructor
    · intro h'
      split at h'
      · rename_i he
        cases h'
        exact ⟨r, ⟨rfl, rfl⟩, List.isEmpty_iff.mp he⟩
      · cases h'
    · rintro ⟨r', ⟨rfl, rfl⟩, he⟩
      rw [he]
      rfl

end Decoder

end HexSigner.Der
