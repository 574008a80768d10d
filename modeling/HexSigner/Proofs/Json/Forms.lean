import HexSigner.Proofs.Document.Writing
import HexSigner.Proofs.Json.Grammar
import HexSigner.Proofs.Json.Written

/-!
# Every tree has a form in JSON

What `write` makes of a tree is a value of the grammar, whatever follows after it
(`valueForm_write`).  So there is a text for every tree (`exists_denotes`), and what is said about
all texts that denote a tree is never said about none.
-/

set_option autoImplicit false

namespace HexSigner.Json

open Document

/-- How trees are written in JSON. -/
def style : Style := ⟨':', []⟩

/-! ## Strings -/

theorem spells_writeChar {c : Char} {cs s rest : List Char} (h : Spells cs s rest) :
    Spells (writeChar c ++ cs) (c :: s) rest := by
  rw [writeChar]
  split
  · next hc =>
    refine .letter ?_ h
    obtain rfl | rfl := hc <;> rfl
  · next hc =>
    rw [not_or] at hc
    split
    · next hnumber =>
      have hspells := Spells.number (fourDigits?_digitChar (n := c.toNat) (by omega))
        (by simp [isLeading]; omega) (by simp [isTrailing]; omega) h
      rwa [Char.ofNat_toNat] at hspells
    · next hnumber => exact .plain hc.1 hc.2 (fun hlt ↦ hnumber (.inl hlt)) h

theorem spells_flatMap (s rest : List Char) :
    Spells (s.flatMap writeChar ++ '"' :: rest) s rest := by
  induction s with
  | nil => exact .close
  | cons c s ih =>
    rw [List.flatMap_cons, List.append_assoc]
    exact spells_writeChar ih

/-! ## Numbers -/

theorem digitsForm_writeDigits (n : Nat) (rest : List Char) :
    DigitsForm (writeDigits n ++ rest) ((writeDigits n).map fun c ↦ c.toNat - 48) rest :=
  ⟨writeDigits n, rfl, writeDigits_ne_nil n, fun _ ↦ isDigit_of_mem_writeDigits, rfl⟩

theorem ofDigits_writeDigits (n : Nat) :
    Numeral.ofDigits ((writeDigits n).map fun c ↦ c.toNat - 48) = n := by
  rw [Numeral.ofDigits, List.foldl_map]
  exact Nat.ofDigitChars_toDigits (by decide) (by decide)

theorem wholeForm_writeDigits (n : Nat) (rest : List Char) :
    WholeForm (writeDigits n ++ rest) ((writeDigits n).map fun c ↦ c.toNat - 48) rest := by
  by_cases hn : n = 0
  · subst hn
    exact .zero
  · refine .digits (digitsForm_writeDigits n rest) ?_
    rw [List.head?_append_of_ne_nil _ (writeDigits_ne_nil n)]
    exact head?_writeDigits hn

/-- An integer is written with its digits. -/
theorem denotesInteger_writeDigits (i : Int) :
    Numeral.DenotesInteger
      ⟨i < 0, (writeDigits i.natAbs).map fun c ↦ c.toNat - 48, none, none⟩ i := by
  refine ⟨rfl, rfl, ?_⟩
  dsimp only
  rw [ofDigits_writeDigits]
  simp only [decide_eq_true_eq]
  omega

/-- A decimal is written with its digits and its exponent. -/
theorem denotesDecimal_writeDigits (negative : Bool) (d : Decimal) :
    Numeral.DenotesDecimal ⟨negative, (writeDigits d.digits).map fun c ↦ c.toNat - 48, none,
      some (d.exponent < 0, (writeDigits d.exponent.natAbs).map fun c ↦ c.toNat - 48)⟩ d := by
  have hexponent : Numeral.lastExponent ⟨negative,
      (writeDigits d.digits).map fun c ↦ c.toNat - 48, none,
      some (d.exponent < 0, (writeDigits d.exponent.natAbs).map fun c ↦ c.toNat - 48)⟩ =
      d.exponent := by
    simp only [Numeral.lastExponent, ofDigits_writeDigits, decide_eq_true_eq, Option.getD_none,
      List.length_nil]
    omega
  refine ⟨.inr nofun, ?_⟩
  rw [hexponent]
  simp only [Option.getD_none, List.append_nil, ofDigits_writeDigits]

theorem signForm_write (e : Int) (cs : List Char) :
    SignForm ((if e < 0 then '-' else '+') :: cs) (decide (e < 0)) cs := by
  by_cases he : e < 0
  · simp only [he, if_true, decide_true]
    exact .minus
  · simp only [he, if_false, decide_false]
    exact .plus

theorem numeralForm_sign {n : Numeral} {cs rest : List Char} (h : MagnitudeForm cs n rest) :
    NumeralForm (style.sign n.negative ++ cs) n rest := by
  cases hsign : n.negative with
  | false => exact .positive hsign h
  | true => exact .negative hsign h

theorem valueForm_integer (i : Int) (rest : List Char) :
    ValueForm (style.write (.integer i) ++ rest) (.integer i) rest := by
  have h : MagnitudeForm (writeDigits i.natAbs ++ rest)
      ⟨i < 0, (writeDigits i.natAbs).map fun c ↦ c.toNat - 48, none, none⟩ rest :=
    ⟨_, _, wholeForm_writeDigits _ _, .absent, .absent⟩
  rw [Style.write, List.append_assoc]
  exact .integer (numeralForm_sign h) (denotesInteger_writeDigits i)

theorem valueForm_real (negative : Bool) (d : Decimal) (rest : List Char) :
    ValueForm (style.write (.real negative d) ++ rest) (.real negative d) rest := by
  have h : MagnitudeForm (writeDigits d.digits ++
      'e' :: (if d.exponent < 0 then '-' else '+') :: (writeDigits d.exponent.natAbs ++ rest))
      ⟨negative, (writeDigits d.digits).map fun c ↦ c.toNat - 48, none,
        some (d.exponent < 0, (writeDigits d.exponent.natAbs).map fun c ↦ c.toNat - 48)⟩ rest :=
    ⟨_, _, wholeForm_writeDigits _ _, .absent,
      .present (.inl rfl) (signForm_write _ _) (digitsForm_writeDigits _ _)⟩
  have hform := ValueForm.real (numeralForm_sign h) (denotesDecimal_writeDigits negative d)
  simpa [Style.write] using hform

/-! ## Values -/

mutual

/-- **A tree that is written is a value of the grammar.** -/
theorem valueForm_write : ∀ (t : Tree) (rest : List Char), ValueForm (style.write t ++ rest) t rest
  | .text s, rest => by
    rw [Style.write, writeText_append]
    have hform := ValueForm.text (spells_flatMap s.toList rest)
    rwa [String.ofList_toList] at hform
  | .integer i, rest => valueForm_integer i rest
  | .real negative d, rest => valueForm_real negative d rest
  | .boolean b, rest => by
    cases b with
    | false => exact .false
    | true => exact .true
  | .list [], rest => .emptyList (.refl _)
  | .list (t :: items), rest => .list (itemsForm_write (t :: items) nofun rest)
  | .table [], rest => .emptyTable (.refl _)
  | .table (e :: es), rest => .table (membersForm_write (e :: es) nofun rest)

theorem itemsForm_write : ∀ (items : List Tree), items ≠ [] → ∀ rest : List Char,
    ItemsForm (style.writeItems items ++ rest) items rest
  | [], hne, _ => absurd rfl hne
  | [t], _, rest => by
    rw [Style.writeItems, List.append_assoc]
    exact .last (.refl _) (valueForm_write t _) (.refl _)
  | t :: u :: items, _, rest => by
    rw [Style.writeItems, List.append_assoc]
    · exact .cons (.refl _) (valueForm_write t _) (.refl _)
        (itemsForm_write (u :: items) nofun rest)
    · nofun

theorem membersForm_write : ∀ (es : Entries), es ≠ [] → ∀ rest : List Char,
    MembersForm (style.writeEntries es ++ rest) es rest
  | [], hne, _ => absurd rfl hne
  | [(key, t)], _, rest => by
    have hform : MembersForm _ [(String.ofList key.toList, t)] rest :=
      .last (.refl _) (spells_flatMap key.toList _) (.refl _) (.refl _) (valueForm_write t _)
        (.refl _)
    rw [String.ofList_toList] at hform
    rw [Style.writeEntries, List.append_assoc, writeText_append, List.cons_append,
      List.append_assoc]
    exact hform
  | (key, t) :: e :: es, _, rest => by
    have hform : MembersForm _ ((String.ofList key.toList, t) :: e :: es) rest :=
      .cons (.refl _) (spells_flatMap key.toList _) (.refl _) (.refl _) (valueForm_write t _)
        (.refl _) (membersForm_write (e :: es) nofun rest)
    rw [String.ofList_toList] at hform
    rw [Style.writeEntries, List.append_assoc, writeText_append, List.cons_append,
      List.append_assoc]
    · exact hform
    · nofun

end

/-- **There is a text for every tree.** -/
theorem exists_denotes (t : Tree) : ∃ text, Denotes text t := by
  refine ⟨String.ofList (style.write t), _, [], .refl _, ?_, .refl _⟩
  rw [String.toList_ofList]
  exact List.append_nil (style.write t) ▸ valueForm_write t []

end HexSigner.Json
