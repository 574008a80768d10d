import HexSigner.Proofs.Json.Reader

/-!
# What is read as a string

However a string is spelled, it is read; that is one half of what a reader of strings is for.  The
other half is here: whatever is read was spelled that way, escape by escape
(`spells_of_readString`).  So reading a string and spelling one are the same relation
(`readString_eq_ok_iff`), and a whole text is read as a string exactly if it denotes one
(`denotes_text_iff`).
-/

set_option autoImplicit false

namespace HexSigner.Json

open Document

/-! ## Escapes -/

theorem readFourDigits_eq_ok_iff {cs rest : List Char} {n : Nat} :
    readFourDigits cs = .ok (n, rest) ↔
      ∃ a b c d, cs = a :: b :: c :: d :: rest ∧ fourDigits? a b c d = some n := by
  constructor
  · intro h
    rw [readFourDigits.eq_def] at h
    split at h
    · split at h
      · next hn =>
        cases h
        exact ⟨_, _, _, _, rfl, hn⟩
      · cases h
    · cases h
  · rintro ⟨a, b, c, d, rfl, h⟩
    exact readFourDigits_of_fourDigits? h rest

/-- What follows after a leading surrogate is the escape of a trailing one. -/
theorem exists_of_readTrailing {n : Nat} {cs rest : List Char} {c : Char}
    (h : readTrailing n cs = .ok (c, rest)) :
    ∃ m₁ m₂ m₃ m₄ m, cs = '\\' :: 'u' :: m₁ :: m₂ :: m₃ :: m₄ :: rest ∧
      fourDigits? m₁ m₂ m₃ m₄ = some m ∧ isTrailing m = true ∧
      c = Char.ofNat (0x10000 + 1024 * (n - 0xD800) + (m - 0xDC00)) := by
  rw [readTrailing.eq_def] at h
  split at h
  · cases h
  · cases h
  · split at h
    · cases h
    · next hread =>
      split at h
      · next htrailing =>
        rw [Except.ok.injEq, Prod.mk.injEq] at h
        obtain ⟨rfl, rfl⟩ := h
        obtain ⟨m₁, m₂, m₃, m₄, rfl, hm⟩ := readFourDigits_eq_ok_iff.mp hread
        exact ⟨m₁, m₂, m₃, m₄, _, rfl, hm, htrailing, rfl⟩
      · cases h
  · cases h
  · cases h

/-- An escape that is read is one of the grammar, in front of whatever the string goes on with. -/
theorem Spells.of_readEscape {cs left s rest : List Char} {c : Char}
    (h : readEscape cs = .ok (c, left)) (hs : Spells left s rest) :
    Spells ('\\' :: cs) (c :: s) rest := by
  rw [readEscape.eq_def] at h
  split at h
  · cases h
  · split at h
    · cases h
    · next n left' hread =>
      obtain ⟨n₁, n₂, n₃, n₄, rfl, hn⟩ := readFourDigits_eq_ok_iff.mp hread
      cases htrailing : isTrailing n with
      | true => simp [htrailing] at h
      | false =>
        cases hleading : isLeading n with
        | true =>
          simp only [htrailing, hleading, Bool.false_eq_true, if_false, if_true] at h
          obtain ⟨m₁, m₂, m₃, m₄, m, rfl, hm, htrailing, hc⟩ := exists_of_readTrailing h
          rw [hc]
          exact .pair hn hm hleading htrailing hs
        | false =>
          simp only [htrailing, hleading, Bool.false_eq_true, if_false, Except.ok.injEq,
            Prod.mk.injEq] at h
          obtain ⟨rfl, rfl⟩ := h
          exact .number hn hleading htrailing hs
  · split at h
    · next hsimple =>
      cases h
      exact .letter hsimple hs
    · cases h

/-! ## Strings -/

theorem exists_of_map_cons {x : Except Fault (List Char × List Char)} {c : Char}
    {s rest : List Char} (h : (x.map fun (s, left) ↦ (c :: s, left)) = .ok (s, rest)) :
    ∃ tail, x = .ok (tail, rest) ∧ s = c :: tail := by
  cases x with
  | error f => cases h
  | ok p =>
    cases h
    exact ⟨_, rfl, rfl⟩

/-- **What is read as a string was spelled that way.** -/
theorem spells_of_readString {cs s rest : List Char} (h : readString cs = .ok (s, rest)) :
    Spells cs s rest := by
  fun_induction readString cs generalizing s with
  | case1 => cases h
  | case2 cs =>
    cases h
    exact .close
  | case3 => cases h
  | case4 cs d left hescape _ ih =>
    obtain ⟨tail, htail, rfl⟩ := exists_of_map_cons h
    exact (ih htail).of_readEscape hescape
  | case5 => cases h
  | case6 c cs hquote hslash hcontrol ih =>
    obtain ⟨tail, htail, rfl⟩ := exists_of_map_cons h
    exact .plain hquote hslash hcontrol (ih htail)

theorem readString_eq_ok_iff {cs s rest : List Char} :
    readString cs = .ok (s, rest) ↔ Spells cs s rest :=
  ⟨spells_of_readString, readString_of_spells⟩

/-! ## Whole texts -/

theorem blanks_skipBlank (cs : List Char) : Blanks cs (skipBlank cs) :=
  ⟨cs.takeWhile isBlank, List.takeWhile_append_dropWhile.symm,
    fun _ h ↦ List.mem_takeWhile_imp h⟩

theorem readEnd_eq_ok_iff {cs : List Char} : readEnd cs = .ok () ↔ Blanks cs [] := by
  rw [readEnd]
  constructor
  · intro h
    have hskip := blanks_skipBlank cs
    split at h
    · next hnil => rwa [hnil] at hskip
    · cases h
  · intro h
    rw [h.skipBlank_eq]
    rfl

theorem readText_eq_ok_iff {expected s : String} {cs rest : List Char} :
    readText expected cs = .ok (s, rest) ↔
      ∃ ds chars, Blanks cs ('"' :: ds) ∧ Spells ds chars rest ∧ s = String.ofList chars := by
  constructor
  · intro h
    have hskip := blanks_skipBlank cs
    rw [readText] at h
    split at h
    · next ds hquote =>
      rw [hquote] at hskip
      cases hread : readString ds with
      | error f => simp [hread, Except.map] at h
      | ok p =>
        rw [hread] at h
        cases h
        exact ⟨ds, p.1, hskip, spells_of_readString hread, rfl⟩
    · cases h
  · rintro ⟨ds, chars, hblank, hs, rfl⟩
    exact readText_of_spells (hblank.skipBlank_cons rfl) hs

/-- **A text denotes a string exactly if it is read as this string, up to its end.** -/
theorem denotes_text_iff {text s : String} :
    Denotes text (.text s) ↔
      ∃ rest, Reader.text.run text.toList = .ok (s, rest) ∧ readEnd rest = .ok () := by
  simp only [Reader.text, readText_eq_ok_iff, readEnd_eq_ok_iff]
  constructor
  · rintro ⟨cs, rest, hfront, hvalue, hback⟩
    cases hvalue with
    | text hs => exact ⟨rest, ⟨_, _, hfront, hs, rfl⟩, hback⟩
  · rintro ⟨rest, ⟨ds, chars, hfront, hs, rfl⟩, hback⟩
    exact ⟨_, rest, hfront, .text hs, hback⟩

end HexSigner.Json
