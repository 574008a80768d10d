import HexSigner.Proofs.Json.Forms
import HexSigner.Proofs.Toml.Grammar
import Mathlib.Data.Bool.AllAny

/-!
# Every table has a form in TOML

What `write` makes of a tree is a value of the grammar, whatever follows after it
(`valueForm_write`), if keys are distinct in every table of the tree.  A line for each entry of a
table makes a document (`exists_denotes`), so what is said about all texts that denote a table is
never said about none.

None of these texts has a header or a dotted key: every statement is about an entry of its own, and
statements about entries with distinct keys always agree (`tabulates_entries`).
-/

set_option autoImplicit false

namespace HexSigner.Toml

open Document

/-- How trees are written in TOML. -/
def style : Style := ⟨'=', ['+']⟩

/-! ## Strings -/

theorem isDigit_digitChar (n : Nat) : IsDigit 16 (Nat.digitChar (n % 16)) (n % 16) :=
  ⟨Nat.mod_lt n (by decide), .inl rfl⟩

theorem escape_fourDigits (c : Char) (h : c.toNat < 0x10000) (rest : List Char) :
    Escape ('u' :: (Json.fourDigits c.toNat ++ rest)) c rest := by
  refine .number List.mem_cons_self (.cons (isDigit_digitChar _) (.cons (isDigit_digitChar _)
    (.cons (isDigit_digitChar _) (.cons (isDigit_digitChar _) .nil)))) ?_
  simp only [ofDigits, List.foldl_cons, List.foldl_nil]
  omega

theorem lineText_writeChar {c : Char} {cs s rest : List Char} (h : LineText '"' cs s rest) :
    LineText '"' (writeChar c ++ cs) (c :: s) rest := by
  rw [writeChar]
  split
  · next hc =>
    refine .escape rfl (.letter ?_) h
    obtain rfl | rfl := hc <;> decide
  · next hc =>
    rw [not_or] at hc
    split
    · next hnumber => exact .escape rfl (escape_fourDigits c (by omega) cs) h
    · next hnumber =>
      rw [not_or] at hnumber
      exact .plain hc.1 (fun _ ↦ hc.2) (.inr ⟨Nat.le_of_not_lt hnumber.1, hnumber.2⟩) h

theorem lineText_flatMap (s rest : List Char) :
    LineText '"' (s.flatMap writeChar ++ '"' :: rest) s rest := by
  induction s with
  | nil => exact .close
  | cons c s ih =>
    rw [List.flatMap_cons, List.append_assoc]
    exact lineText_writeChar ih

/-! ## Numbers -/

theorem isDigit_of_isDigit {c : Char} (h : c.isDigit = true) : IsDigit 10 c (c.toNat - 48) := by
  have hall : ∀ k : Fin 10, Nat.digitChar k = Char.ofNat (k + 48) := by decide
  obtain ⟨hlow, hhigh⟩ : 48 ≤ c.toNat ∧ c.toNat ≤ 57 := by
    rwa [Char.isDigit, Bool.and_eq_true, decide_eq_true_eq, decide_eq_true_eq] at h
  have hlt : c.toNat - 48 < 10 := by omega
  refine ⟨hlt, .inl ?_⟩
  rw [hall ⟨_, hlt⟩]
  dsimp only
  rw [Nat.sub_add_cancel hlow, Char.ofNat_toNat]

theorem digits_append {ds : List Char} (hne : ds ≠ []) (h : ∀ c ∈ ds, c.isDigit = true)
    (rest : List Char) : Digits 10 (ds ++ rest) (ds.map fun c ↦ c.toNat - 48) rest := by
  induction ds with
  | nil => exact absurd rfl hne
  | cons c ds ih =>
    rw [List.forall_mem_cons] at h
    cases ds with
    | nil => exact .last (isDigit_of_isDigit h.1)
    | cons d ds => exact .cons (isDigit_of_isDigit h.1) (ih (List.cons_ne_nil d ds) h.2)

theorem digits_writeDigits (n : Nat) (rest : List Char) :
    Digits 10 (writeDigits n ++ rest) ((writeDigits n).map fun c ↦ c.toNat - 48) rest :=
  digits_append (writeDigits_ne_nil n) (fun _ ↦ isDigit_of_mem_writeDigits) rest

theorem wholeForm_writeDigits (n : Nat) (rest : List Char) :
    WholeForm (writeDigits n ++ rest) ((writeDigits n).map fun c ↦ c.toNat - 48) rest := by
  by_cases hn : n = 0
  · subst hn
    exact .zero
  · refine .digits (digits_writeDigits n rest) ?_
    rw [List.head?_append_of_ne_nil _ (writeDigits_ne_nil n)]
    exact head?_writeDigits hn

theorem signForm_sign (negative : Bool) (cs : List Char) :
    Json.SignForm (style.sign negative ++ cs) negative cs := by
  cases negative with
  | false => exact .plus
  | true => exact .minus

theorem valueForm_integer (i : Int) (rest : List Char) :
    ValueForm (style.write (.integer i) ++ rest) (.integer i) rest := by
  rw [Style.write, List.append_assoc]
  exact .integer ⟨_, _, _, signForm_sign _ _, wholeForm_writeDigits _ _, .absent, .absent⟩
    (Json.denotesInteger_writeDigits i)

theorem valueForm_real (negative : Bool) (d : Decimal) (rest : List Char) :
    ValueForm (style.write (.real negative d) ++ rest) (.real negative d) rest := by
  have hform := ValueForm.real
    ⟨_, _, _, signForm_sign negative _, wholeForm_writeDigits d.digits _, .absent,
      .present (.inl rfl) (Json.signForm_write d.exponent _) (digits_writeDigits _ rest)⟩
    (Json.denotesDecimal_writeDigits negative d)
  simpa [Style.write] using hform

/-! ## Tables -/

/-- An entry, as a statement of its own. -/
def entryStatement (e : String × Tree) : Statement := ⟨keyPath [e.1], .value e.2⟩

theorem branches_entries {es : Entries} (hkeys : (es.map (·.1)).Nodup) {e : String × Tree}
    (he : e ∈ es) : branches e.1 (es.map entryStatement) = [(.last, ⟨[], .value e.2⟩)] := by
  induction es with
  | nil => cases he
  | cons e' es ih =>
    rw [List.map_cons, List.nodup_cons] at hkeys
    obtain rfl | he := List.mem_cons.mp he
    · refine (branches_cons_self .last e.1 [] (.value e.2) _).trans ?_
      rw [branches_eq_nil]
      intro s hs hkey
      obtain ⟨e', he', rfl⟩ := List.mem_map.mp hs
      exact hkeys.1 (List.mem_map.mpr ⟨e', he', Option.some.inj hkey⟩)
    · have hne : (entryStatement e').key? ≠ some e.1 := fun heq ↦
        hkeys.1 (List.mem_map.mpr ⟨e, he, (Option.some.inj heq).symm⟩)
      rw [List.map_cons, branches_cons_of_ne hne]
      exact ih hkeys.2 he

/-- **Entries with distinct keys are the entries of a table.** -/
theorem tabulates_entries {es : Entries} (hkeys : (es.map (·.1)).Nodup) :
    Tabulates (es.map entryStatement) es := by
  refine .intro hkeys ?_ fun e he ↦ ?_
  · rw [List.forall_mem_map]
    exact fun e he ↦ ⟨e, he, rfl⟩
  · rw [branches_entries hkeys he]
    exact .value e.2

theorem entryForm_write (key : String) {t : Tree} {cs rest : List Char}
    (h : ValueForm cs t rest) :
    EntryForm (writeText key ++ '=' :: cs) (entryStatement (key, t)) rest := by
  have hkey : SimpleKey _ (String.ofList key.toList) ('=' :: cs) :=
    .quoted (.inl rfl) (lineText_flatMap key.toList _)
  rw [String.ofList_toList] at hkey
  rw [writeText_append]
  exact .intro (.last (.refl _) hkey (.refl _)) (.refl _) h

/-! ## Values -/

mutual

/-- **A tree that is written is a value of the grammar.** -/
theorem valueForm_write : ∀ (t : Tree), t.Every Tree.DistinctKeys → ∀ rest : List Char,
    ValueForm (style.write t ++ rest) t rest
  | .text s, _, rest => by
    rw [Style.write, writeText_append]
    have hform := ValueForm.text (.line (.inl rfl) (lineText_flatMap s.toList rest))
    rwa [String.ofList_toList] at hform
  | .integer i, _, rest => valueForm_integer i rest
  | .real negative d, _, rest => valueForm_real negative d rest
  | .boolean b, _, rest => by
    cases b with
    | false => exact .false
    | true => exact .true
  | .list items, h, rest => .list (itemsForm_write items (Tree.everyItem_iff.mp h.2) rest)
  | .table [], _, rest => .emptyTable (.refl _)
  | .table (e :: es), h, rest =>
    .table (entriesForm_write (e :: es) (List.cons_ne_nil e es) (Tree.everyEntry_iff.mp h.2) rest)
      (tabulates_entries h.1)

theorem itemsForm_write : ∀ (items : List Tree), (∀ t ∈ items, t.Every Tree.DistinctKeys) →
    ∀ rest : List Char, ItemsForm (style.writeItems items ++ rest) items rest
  | [], _, rest => .done (.refl _)
  | [t], h, rest => by
    rw [Style.writeItems, List.append_assoc]
    exact .last (.refl _) (valueForm_write t (h t List.mem_cons_self) _) (.refl _)
  | t :: u :: items, h, rest => by
    rw [List.forall_mem_cons] at h
    rw [Style.writeItems, List.append_assoc]
    · exact .cons (.refl _) (valueForm_write t h.1 _) (.refl _)
        (itemsForm_write (u :: items) h.2 rest)
    · exact List.cons_ne_nil u items

theorem entriesForm_write : ∀ (es : Entries), es ≠ [] →
    (∀ e ∈ es, e.2.Every Tree.DistinctKeys) → ∀ rest : List Char,
    EntriesForm (style.writeEntries es ++ rest) (es.map entryStatement) rest
  | [], hne, _, _ => absurd rfl hne
  | [(key, t)], _, h, rest => by
    rw [Style.writeEntries, List.append_assoc, List.cons_append, List.append_assoc]
    exact .last (entryForm_write key (valueForm_write t (h _ List.mem_cons_self) _)) (.refl _)
  | (key, t) :: e :: es, _, h, rest => by
    rw [List.forall_mem_cons] at h
    rw [Style.writeEntries, List.append_assoc, List.cons_append, List.append_assoc]
    · exact .cons (entryForm_write key (valueForm_write t h.1 _)) (.refl _)
        (entriesForm_write (e :: es) (List.cons_ne_nil e es) h.2 rest)
    · exact List.cons_ne_nil e es

end

/-! ## Documents -/

/-- A line for each entry. -/
def writeLines (es : Entries) : List Char :=
  es.flatMap fun (key, t) ↦ writeText key ++ '=' :: (style.write t ++ ['\n'])

theorem endOfLine_feed (rest : List Char) : EndOfLine ('\n' :: rest) rest :=
  ⟨_, _, .refl _, .inl rfl, .inl .feed⟩

theorem linesForm_writeLines {es : Entries} (h : ∀ e ∈ es, e.2.Every Tree.DistinctKeys) :
    LinesForm [] (writeLines es) (es.map entryStatement) := by
  induction es with
  | nil => exact .done
  | cons e es ih =>
    obtain ⟨key, t⟩ := e
    rw [List.forall_mem_cons] at h
    have hline : writeLines ((key, t) :: es) =
        writeText key ++ '=' :: (style.write t ++ '\n' :: writeLines es) := by
      simp [writeLines]
    rw [hline]
    exact .entry (entryForm_write key (valueForm_write t h.1 _)) (endOfLine_feed _) (ih h.2)

/-- **There is a text for every table** whose keys are distinct, and those of its parts. -/
theorem exists_denotes {es : Entries} (h : (Tree.table es).Every Tree.DistinctKeys) :
    ∃ text, Denotes text (.table es) := by
  refine ⟨String.ofList (writeLines es), _, _, es, .inl (String.toList_ofList), ?_,
    tabulates_entries h.1, rfl⟩
  exact linesForm_writeLines (Tree.everyEntry_iff.mp h.2)

/-! ## Texts that people write -/

theorem blanks_space (rest : List Char) : Blanks (' ' :: rest) rest :=
  ⟨[' '], rfl, by rw [List.forall_mem_singleton]; exact .inl rfl⟩

theorem simpleKey_bare {key : String} (hne : key.toList ≠ [])
    (h : key.toList.all fun c ↦ IsBare c) (rest : List Char) :
    SimpleKey (key.toList ++ rest) key rest := by
  have hkey : SimpleKey (key.toList ++ rest) (String.ofList key.toList) rest :=
    .bare hne (List.all_iff_forall_prop.mp h)
  rwa [String.ofList_toList] at hkey

/-- A string in single quotes stands for what is between them. -/
theorem valueForm_literal {s : String} (h : s.toList.all fun c ↦ c ≠ '\'' ∧ IsText c)
    (rest : List Char) : ValueForm ('\'' :: (s.toList ++ '\'' :: rest)) (.text s) rest := by
  have hline : ∀ cs : List Char, (∀ c ∈ cs, c ≠ '\'' ∧ IsText c) →
      LineText '\'' (cs ++ '\'' :: rest) cs rest := by
    intro cs hcs
    induction cs with
    | nil => exact .close
    | cons c cs ih =>
      rw [List.forall_mem_cons] at hcs
      exact .plain hcs.1.1 (fun heq ↦ absurd heq (by decide)) hcs.1.2 (ih hcs.2)
  have hform := ValueForm.text (.line (.inr rfl) (hline s.toList (List.all_iff_forall_prop.mp h)))
  rwa [String.ofList_toList] at hform

theorem keyForm_bare {key : String} (hne : key.toList ≠ [])
    (h : key.toList.all fun c ↦ IsBare c) {cs rest : List Char} (hback : Blanks cs rest) :
    KeyForm (key.toList ++ cs) [key] rest :=
  .last (.refl _) (simpleKey_bare hne h cs) hback

/-- A table has a header of its own, and nothing but headers that lead further otherwise. -/
theorem yields_of_header {back : List Branch} {es : Entries} (hback : ∀ b ∈ back, Passes b)
    (h : Tabulates (inside back) es) : Yields (headerHere :: back) (.table es) := by
  have hmade : Made .headed (headerHere :: back) := .headed (List.forall_mem_nil _) hback
  refine .table hmade (by decide) ?_
  rwa [inside_cons_of_nil rfl]

end HexSigner.Toml
