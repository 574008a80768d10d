import HexSigner.Proofs.Json.Unique

/-!
# JSON in one piece

JSON that is meant for programs is written without blanks, and all on one line.  `Writes` says that
a text is such a form of a tree: whatever follows after it, it is a value of the grammar, and there
is no control character in it, so no line ends there either.  Numbers are never written like this,
so the text denotes this tree only (`Writes.denotes_iff`).

Strings are where something could go wrong, since their characters may be any.  But a line break in
a string is written as an escape, and so is every other control character (`unbroken_quoted`).  The
rest is put together from strings by brackets, commas and colons (`writes_object`).
-/

set_option autoImplicit false

namespace HexSigner.Json

open Document

/-- There are no control characters of ASCII in a text, and in particular no line breaks. -/
def Unbroken (text : String) : Prop := ∀ c ∈ text.toList, 0x20 ≤ c.toNat

instance (text : String) : Decidable (Unbroken text) :=
  decidable_of_iff (text.toList.all (fun c ↦ decide (0x20 ≤ c.toNat)) = true) (by simp [Unbroken])

/-- A text is a form of a tree, whatever follows after it, and stays on its line.  There are no
numbers in the tree. -/
structure Writes (text : String) (t : Tree) : Prop where
  form : ∀ rest, ValueForm (text.toList ++ rest) t rest
  unbroken : Unbroken text
  noNumber : t.Every Tree.NoNumber

theorem Unbroken.append {text text' : String} (h : Unbroken text) (h' : Unbroken text') :
    Unbroken (text ++ text') := by
  rw [Unbroken, String.toList_append, List.forall_mem_append]
  exact ⟨h, h'⟩

theorem Unbroken.not_mem_newline {text : String} (h : Unbroken text) : '\n' ∉ text.toList :=
  fun hmem ↦ absurd (h '\n' hmem) (by decide)

theorem Writes.denotes {text : String} {t : Tree} (h : Writes text t) : Denotes text t :=
  ⟨_, [], .refl _, List.append_nil text.toList ▸ h.form [], .refl _⟩

/-- **What is written can be decoded in one way only.** -/
theorem Writes.denotes_iff {text : String} {t u : Tree} (h : Writes text t) :
    Denotes text u ↔ u = t :=
  ⟨fun hu ↦ (h.denotes.unique h.noNumber hu).symm, fun hu ↦ hu ▸ h.denotes⟩

/-! ## Strings and truth values -/

theorem toNat_digitChar_mod (n : Nat) : 0x20 ≤ (Nat.digitChar (n % 16)).toNat := by
  have hall : ∀ k : Fin 16, 0x20 ≤ (Nat.digitChar k).toNat := by decide
  exact hall ⟨n % 16, Nat.mod_lt n (by decide)⟩

/-- Control characters are always escaped. -/
theorem le_toNat_of_mem_escapeChar {c d : Char} (h : d ∈ escapeChar c) : 0x20 ≤ d.toNat := by
  have hletter : ∀ e : Char, 0x20 ≤ e.toNat → d ∈ ['\\', e] → 0x20 ≤ d.toNat := by
    intro e he hmem
    simp only [List.mem_cons, List.not_mem_nil, or_false] at hmem
    obtain rfl | rfl := hmem
    · decide
    · exact he
  rw [escapeChar] at h
  split_ifs at h with hquote hslash hb hf hn hr ht hcontrol
  · exact hletter _ (by decide) h
  · exact hletter _ (by decide) h
  · exact hletter _ (by decide) h
  · exact hletter _ (by decide) h
  · exact hletter _ (by decide) h
  · exact hletter _ (by decide) h
  · exact hletter _ (by decide) h
  · obtain h | h := List.mem_append.mp (show d ∈ ['\\', 'u'] ++ fourDigits c.toNat from h)
    · exact hletter _ (by decide) h
    · obtain ⟨n, hn, rfl⟩ := List.mem_map.mp h
      simp only [List.mem_cons, List.not_mem_nil, or_false] at hn
      obtain rfl | rfl | rfl | rfl := hn <;> exact toNat_digitChar_mod _
  · rw [List.mem_singleton.mp h]
    exact Nat.le_of_not_lt hcontrol

theorem unbroken_quoted (s : String) : Unbroken (quoted s) := by
  intro c hc
  simp only [quoted, String.toList_ofList, List.mem_append, List.mem_cons, List.mem_flatMap,
    List.not_mem_nil, or_false] at hc
  obtain (rfl | ⟨d, -, hd⟩) | rfl := hc
  · decide
  · exact le_toNat_of_mem_escapeChar hd
  · decide

theorem spells_flatMap_escapeChar (s rest : List Char) :
    Spells (s.flatMap escapeChar ++ '"' :: rest) s rest :=
  spells_of_readString (readString_flatMap_escapeChar s rest)

/-- **However a text reads, its string is written on one line.** -/
theorem writes_quoted (s : String) : Writes (quoted s) (.text s) where
  form rest := by
    have hform := ValueForm.text (spells_flatMap_escapeChar s.toList rest)
    rw [String.ofList_toList] at hform
    simpa [quoted] using hform
  unbroken := unbroken_quoted s
  noNumber := trivial

theorem writes_boolText (b : Bool) : Writes (boolText b) (.boolean b) := by
  cases b with
  | false => exact ⟨fun rest ↦ .false, by decide +kernel, trivial⟩
  | true => exact ⟨fun rest ↦ .true, by decide +kernel, trivial⟩

/-! ## Lists and objects -/

/-- A list of one item. -/
theorem Writes.singleton {text : String} {t : Tree} (h : Writes text t) :
    Writes ("[" ++ text ++ "]") (.list [t]) where
  form rest := by
    simp only [String.toList_append, List.append_assoc]
    exact .list (.last (.refl _) (h.form _) (.refl _))
  unbroken := by
    have hopening : Unbroken "[" := by decide +kernel
    have hclosing : Unbroken "]" := by decide +kernel
    exact (hopening.append h.unbroken).append hclosing
  noNumber := ⟨trivial, h.noNumber, trivial⟩

/-- A text is a member of an object, with the key and the value of an entry. -/
def WritesMember (text : String) (e : String × Tree) : Prop :=
  ∃ value, text = quoted e.1 ++ ":" ++ value ∧ Writes value e.2

/-- An object with some members. -/
def object (members : List String) : String := "\x7b" ++ ",".intercalate members ++ "\x7d"

section Members

variable {members : List String} {es : Entries} (h : List.Forall₂ WritesMember members es)
include h

theorem membersForm_intercalate (hne : es ≠ []) (rest : List Char) :
    MembersForm ((",".intercalate members).toList ++ '\x7d' :: rest) es rest := by
  induction h with
  | nil => exact absurd rfl hne
  | @cons member e members es hmember hrest ih =>
    obtain ⟨value, rfl, hvalue⟩ := hmember
    have hkey := spells_flatMap_escapeChar e.1.toList
    have hentry : e = (String.ofList e.1.toList, e.2) := by rw [String.ofList_toList]
    rw [hentry]
    cases hrest with
    | nil =>
      simpa [quoted] using MembersForm.last (.refl _) (hkey _) (.refl _) (.refl _)
        (hvalue.form _) (.refl _)
    | cons _ _ =>
      simpa [quoted] using MembersForm.cons (.refl _) (hkey _) (.refl _) (.refl _)
        (hvalue.form _) (.refl _) (ih (List.cons_ne_nil _ _))

theorem unbroken_intercalate : Unbroken (",".intercalate members) := by
  induction h with
  | nil => simp [Unbroken]
  | @cons member e members es hmember hrest ih =>
    obtain ⟨value, rfl, hvalue⟩ := hmember
    have hcolon : Unbroken ":" := by decide +kernel
    have hmember := ((unbroken_quoted e.1).append hcolon).append hvalue.unbroken
    cases hrest with
    | nil => simpa using hmember
    | cons _ _ =>
      have hcomma : Unbroken "," := by decide +kernel
      rw [String.intercalate_cons_cons]
      exact (hmember.append hcomma).append ih

theorem noNumber_entries : Tree.EveryEntry Tree.NoNumber es := by
  induction h with
  | nil => trivial
  | cons hmember _ ih =>
    obtain ⟨value, -, hvalue⟩ := hmember
    exact ⟨hvalue.noNumber, ih⟩

/-- **An object whose members are the entries of a table is a form of the table.** -/
theorem writes_object : Writes (object members) (.table es) where
  form rest := by
    rw [object, String.toList_append, String.toList_append, List.append_assoc, List.append_assoc]
    cases h with
    | nil => exact .emptyTable (.refl _)
    | cons hmember hrest =>
      exact .table (membersForm_intercalate (.cons hmember hrest) (List.cons_ne_nil _ _) rest)
  unbroken := by
    have hopening : Unbroken "\x7b" := by decide +kernel
    have hclosing : Unbroken "\x7d" := by decide +kernel
    exact (hopening.append (unbroken_intercalate h)).append hclosing
  noNumber := ⟨trivial, noNumber_entries h⟩

end Members

end HexSigner.Json
