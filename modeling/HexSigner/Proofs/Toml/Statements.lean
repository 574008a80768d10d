import HexSigner.Proofs.Document.Tree

/-!
# What the statements of a TOML document say together

A TOML document is a list of statements: entries, each with a value, and headers of tables.  A
statement names what it is about by a path of keys, some of them in a header and some with dots
between them, and says what is at the end of that path (`Mark`).

What a table is like follows from the statements about it alone.  Those that start with the same key
are the branches of that key (`branches`), and say together what the key stands for (`Yields`).

* One entry of its own gives it a value, which nothing may be added to.
* Dotted keys make a table, to which headers may add tables.
* Headers that lead further make a table in passing, which may have a header of its own once.
* Headers with double brackets make a list of tables; what follows one of them is about its table.

Everything else is no document: a second value, a second header, a header for a table of dotted
keys, dotted keys for a table of headers.
-/

set_option autoImplicit false

namespace HexSigner.Toml

open Document

/-! ## Statements -/

/-- How a key of a path is written. -/
inductive Via where
  /-- In a header. -/
  | header
  /-- In an entry, before a dot. -/
  | dot
  /-- In an entry, as the last key. -/
  | last
deriving DecidableEq

/-- What a statement says about the end of its path. -/
inductive Mark where
  | value (t : Tree)
  /-- It is a table. -/
  | header
  /-- It is a list, with another table. -/
  | element

/-- A statement about a table. -/
structure Statement where
  path : List (Via × String)
  mark : Mark

/-- The path of the key of an entry. -/
def keyPath : List String → List (Via × String)
  | [] => []
  | [key] => [(.last, key)]
  | key :: keys => (.dot, key) :: keyPath keys

/-- The path of a header. -/
def headerPath (keys : List String) : List (Via × String) := keys.map (.header, ·)

/-- A statement about a table, as one about the whole document. -/
def Statement.under (keys : List String) (s : Statement) : Statement :=
  ⟨headerPath keys ++ s.path, s.mark⟩

/-- The key that a statement starts with. -/
def Statement.key? (s : Statement) : Option String := s.path.head?.map (·.2)

/-- What a key stands for, seen from there: how the key is written, and what is left to say. -/
abbrev Branch : Type := Via × Statement

/-- The branch of a statement that starts with a key. -/
def Statement.branch? (key : String) (s : Statement) : Option Branch :=
  match s.path with
  | [] => none
  | (via, name) :: path => if name = key then some (via, ⟨path, s.mark⟩) else none

/-- The branches of a key. -/
def branches (key : String) (ss : List Statement) : List Branch := ss.filterMap (·.branch? key)

/-- The statements about what is in a table, of those about the table. -/
def inside (bs : List Branch) : List Statement := (bs.map (·.2)).filter fun s ↦ !s.path.isEmpty

/-! ## Tables -/

/-- A header that leads further. -/
def Passes (b : Branch) : Prop := b.1 = .header ∧ b.2.path ≠ []

/-- A dotted key that leads further. -/
def Dots (b : Branch) : Prop := b.1 = .dot ∧ b.2.path ≠ []

/-- A header of a table. -/
def headerHere : Branch := (.header, ⟨[], .header⟩)

/-- A header of another table of a list. -/
def elementHere : Branch := (.header, ⟨[], .element⟩)

/-- How a table is made. -/
inductive Making where
  | dotted
  | implicit
  | headed
  | element
deriving DecidableEq

/-- The branches of a key make a table. -/
inductive Made : Making → List Branch → Prop
  | dotted {front back : List Branch} (hne : front ≠ []) (hfront : ∀ b ∈ front, Dots b)
      (hback : ∀ b ∈ back, Passes b) : Made .dotted (front ++ back)
  | implicit {bs : List Branch} (hne : bs ≠ []) (h : ∀ b ∈ bs, Passes b) : Made .implicit bs
  | headed {front back : List Branch} (hfront : ∀ b ∈ front, Passes b)
      (hback : ∀ b ∈ back, Passes b) : Made .headed (front ++ headerHere :: back)
  /-- The table is one of a list. -/
  | element {back : List Branch} (hback : ∀ b ∈ back, Passes b) :
    Made .element (elementHere :: back)

mutual

/-- Statements about a table say that these are its entries, in any order. -/
inductive Tabulates : List Statement → Entries → Prop
  | intro {ss : List Statement} {es : Entries} (hkeys : (es.map (·.1)).Nodup)
      (hall : ∀ s ∈ ss, ∃ e ∈ es, s.key? = some e.1)
      (h : ∀ e ∈ es, Yields (branches e.1 ss) e.2) : Tabulates ss es

/-- The branches of a key say that this is what the key stands for. -/
inductive Yields : List Branch → Tree → Prop
  | value (t : Tree) : Yields [(.last, ⟨[], .value t⟩)] t
  | table {making : Making} {bs : List Branch} {es : Entries} (hmade : Made making bs)
      (halone : making ≠ .element) (h : Tabulates (inside bs) es) : Yields bs (.table es)
  | list {bs : List Branch} {items : List Tree} (hne : bs ≠ []) (h : YieldsItems bs items) :
    Yields bs (.list items)

/-- The branches of a key say that these are the tables of a list. -/
inductive YieldsItems : List Branch → List Tree → Prop
  | nil : YieldsItems [] []
  | cons {bs more : List Branch} {es : Entries} {items : List Tree} (hmade : Made .element bs)
      (h : Tabulates (inside bs) es) (hmore : YieldsItems more items) :
    YieldsItems (bs ++ more) (.table es :: items)

end

/-! ## Branches -/

theorem branches_append (key : String) (ss ss' : List Statement) :
    branches key (ss ++ ss') = branches key ss ++ branches key ss' :=
  List.filterMap_append

theorem branches_cons_self (via : Via) (key : String) (path : List (Via × String)) (mark : Mark)
    (ss : List Statement) :
    branches key (⟨(via, key) :: path, mark⟩ :: ss) = (via, ⟨path, mark⟩) :: branches key ss := by
  rw [branches, List.filterMap_cons_some]
  · rfl
  · simp [Statement.branch?]

theorem branches_cons_of_ne {key : String} {s : Statement} (h : s.key? ≠ some key)
    (ss : List Statement) : branches key (s :: ss) = branches key ss := by
  obtain ⟨path, mark⟩ := s
  rw [branches, List.filterMap_cons_none]
  · rfl
  · cases path with
    | nil => rfl
    | cons step path =>
      have hne : step.2 ≠ key := fun heq ↦ h (congrArg some heq)
      simp [Statement.branch?, hne]

theorem branches_eq_nil {key : String} {ss : List Statement} (h : ∀ s ∈ ss, s.key? ≠ some key) :
    branches key ss = [] := by
  induction ss with
  | nil => rfl
  | cons s ss ih =>
    rw [List.forall_mem_cons] at h
    rw [branches_cons_of_ne h.1]
    exact ih h.2

theorem inside_append (bs bs' : List Branch) : inside (bs ++ bs') = inside bs ++ inside bs' := by
  rw [inside, List.map_append, List.filter_append]
  rfl

theorem inside_cons_of_ne_nil {b : Branch} (h : b.2.path ≠ []) (bs : List Branch) :
    inside (b :: bs) = b.2 :: inside bs := by
  rw [inside, List.map_cons, List.filter_cons_of_pos (by simpa using h)]
  rfl

theorem inside_cons_of_nil {b : Branch} (h : b.2.path = []) (bs : List Branch) :
    inside (b :: bs) = inside bs := by
  rw [inside, List.map_cons, List.filter_cons_of_neg (by simp [h])]
  rfl

theorem mem_inside_iff {s : Statement} {bs : List Branch} :
    s ∈ inside bs ↔ (∃ b ∈ bs, b.2 = s) ∧ s.path ≠ [] := by
  simp [inside]

/-! ## What may be added -/

theorem Made.ne_nil {making : Making} {bs : List Branch} (h : Made making bs) : bs ≠ [] := by
  cases h with
  | dotted hne => exact List.append_ne_nil_of_left_ne_nil hne _
  | implicit hne => exact hne
  | headed => exact List.append_ne_nil_of_right_ne_nil _ (List.cons_ne_nil _ _)
  | element => exact List.cons_ne_nil _ _

/-- A branch of a table leads further or is a header of that table. -/
theorem Made.mem_cases {making : Making} {bs : List Branch} (h : Made making bs) {b : Branch}
    (hb : b ∈ bs) :
    making = .dotted ∧ Dots b ∨ Passes b ∨ making = .headed ∧ b = headerHere ∨
      making = .element ∧ b = elementHere := by
  cases h with
  | dotted _ hfront hback =>
    obtain hb | hb := List.mem_append.mp hb
    · exact .inl ⟨rfl, hfront b hb⟩
    · exact .inr (.inl (hback b hb))
  | implicit _ h => exact .inr (.inl (h b hb))
  | headed hfront hback =>
    obtain hb | hb := List.mem_append.mp hb
    · exact .inr (.inl (hfront b hb))
    obtain rfl | hb := List.mem_cons.mp hb
    · exact .inr (.inr (.inl ⟨rfl, rfl⟩))
    · exact .inr (.inl (hback b hb))
  | element hback =>
    obtain rfl | hb := List.mem_cons.mp hb
    · exact .inr (.inr (.inr ⟨rfl, rfl⟩))
    · exact .inr (.inl (hback b hb))

theorem Made.of_dots {bs : List Branch} (hne : bs ≠ []) (h : ∀ b ∈ bs, Dots b) :
    Made .dotted bs := by
  have hmade := Made.dotted hne h (List.forall_mem_nil _)
  rwa [List.append_nil] at hmade

theorem not_passes_headerHere : ¬Passes headerHere := fun h ↦ h.2 rfl

theorem not_passes_elementHere : ¬Passes elementHere := fun h ↦ h.2 rfl

theorem Dots.not_passes {b : Branch} (h : Dots b) : ¬Passes b := by
  intro h'
  cases h.1.symm.trans h'.1

theorem headerHere_ne_elementHere : headerHere ≠ elementHere := by
  intro h
  cases h

/-- A header that leads further adds to every table. -/
theorem Made.append_passes {making : Making} {bs : List Branch} (h : Made making bs) {b : Branch}
    (hb : Passes b) : Made making (bs ++ [b]) := by
  have hsnoc : ∀ {back : List Branch}, (∀ b ∈ back, Passes b) → ∀ b' ∈ back ++ [b], Passes b' := by
    intro back hback
    rw [List.forall_mem_append, List.forall_mem_singleton]
    exact ⟨hback, hb⟩
  cases h with
  | dotted hne hfront hback =>
    rw [List.append_assoc]
    exact .dotted hne hfront (hsnoc hback)
  | implicit hne h => exact .implicit (List.append_ne_nil_of_left_ne_nil hne _) (hsnoc h)
  | headed hfront hback =>
    rw [List.append_assoc, List.cons_append]
    exact .headed hfront (hsnoc hback)
  | element hback => exact .element (hsnoc hback)

theorem Made.eq_dotted {making : Making} {bs : List Branch} (h : Made making bs) {b : Branch}
    (hb : b ∈ bs) (hdots : Dots b) : making = .dotted := by
  obtain ⟨rfl, -⟩ | hpasses | ⟨-, rfl⟩ | ⟨-, rfl⟩ := h.mem_cases hb
  · rfl
  · exact absurd hpasses hdots.not_passes
  · cases hdots.1
  · cases hdots.1

theorem Made.eq_headed {making : Making} {bs : List Branch} (h : Made making bs)
    (hb : headerHere ∈ bs) : making = .headed := by
  obtain ⟨-, hdots⟩ | hpasses | ⟨rfl, -⟩ | ⟨-, heq⟩ := h.mem_cases hb
  · cases hdots.1
  · exact absurd hpasses not_passes_headerHere
  · rfl
  · exact absurd heq headerHere_ne_elementHere

theorem Made.eq_element {making : Making} {bs : List Branch} (h : Made making bs)
    (hb : elementHere ∈ bs) : making = .element := by
  obtain ⟨-, hdots⟩ | hpasses | ⟨-, heq⟩ | ⟨rfl, -⟩ := h.mem_cases hb
  · cases hdots.1
  · exact absurd hpasses not_passes_elementHere
  · exact absurd heq.symm headerHere_ne_elementHere
  · rfl

theorem Made.via_ne_last {making : Making} {bs : List Branch} (h : Made making bs) {b : Branch}
    (hb : b ∈ bs) : b.1 ≠ .last := by
  intro hlast
  obtain ⟨-, hdots⟩ | hpasses | ⟨-, rfl⟩ | ⟨-, rfl⟩ := h.mem_cases hb
  · cases hlast.symm.trans hdots.1
  · cases hlast.symm.trans hpasses.1
  · cases hlast
  · cases hlast

/-- Only a table that was made in passing has nothing but headers that lead further. -/
theorem Made.eq_implicit {making : Making} {bs : List Branch} (h : Made making bs)
    (hall : ∀ b ∈ bs, Passes b) : making = .implicit := by
  cases h with
  | dotted hne hfront =>
    obtain ⟨b, hb⟩ := List.exists_mem_of_ne_nil _ hne
    exact absurd (hall b (List.mem_append_left _ hb)) (hfront b hb).not_passes
  | implicit => rfl
  | headed =>
    exact absurd (hall _ (List.mem_append_right _ List.mem_cons_self)) not_passes_headerHere
  | element => exact absurd (hall _ List.mem_cons_self) not_passes_elementHere

/-- A dotted key adds only to a table of dotted keys. -/
theorem Made.append_dots {making how : Making} {bs rest : List Branch} {b : Branch}
    (h : Made making bs) (hall : Made how (bs ++ b :: rest)) (hb : Dots b) :
    making = .dotted ∧ Made .dotted (bs ++ [b]) := by
  obtain ⟨all, heq⟩ : ∃ all, all = bs ++ b :: rest := ⟨_, rfl⟩
  have hmem : b ∈ bs ++ b :: rest := List.mem_append_right _ List.mem_cons_self
  rw [← heq] at hall hmem
  obtain rfl := hall.eq_dotted hmem hb
  cases hall with
  | @dotted front back hne hfront hback =>
    -- The dotted keys come first, so all that is before this one is dotted, too.
    have hdots : ∀ b' ∈ bs ++ [b], Dots b' := by
      obtain ⟨more, -, hback'⟩ | ⟨more, rfl, hmore⟩ := List.append_eq_append_iff.mp heq
      · exact absurd (hback b (hback' ▸ List.mem_append_right _ List.mem_cons_self))
          hb.not_passes
      obtain ⟨rfl, hback'⟩ | ⟨more', rfl, -⟩ := List.cons_eq_append_iff.mp hmore
      · exact absurd (hback b (hback' ▸ List.mem_cons_self)) hb.not_passes
      · intro b' hb'
        refine hfront b' ?_
        rw [List.append_cons]
        exact List.mem_append_left _ hb'
    obtain ⟨b', hb'⟩ := List.exists_mem_of_ne_nil _ h.ne_nil
    exact ⟨h.eq_dotted hb' (hdots b' (List.mem_append_left _ hb')),
      .of_dots (List.append_ne_nil_of_left_ne_nil h.ne_nil _) hdots⟩

/-- A header adds only to a table that was made in passing. -/
theorem Made.append_headerHere {making how : Making} {bs rest : List Branch}
    (h : Made making bs) (hall : Made how (bs ++ headerHere :: rest)) :
    making = .implicit ∧ Made .headed (bs ++ [headerHere]) := by
  obtain ⟨all, heq⟩ : ∃ all, all = bs ++ headerHere :: rest := ⟨_, rfl⟩
  have hmem : headerHere ∈ bs ++ headerHere :: rest :=
    List.mem_append_right _ List.mem_cons_self
  rw [← heq] at hall hmem
  obtain rfl := hall.eq_headed hmem
  cases hall with
  | headed hfront hback =>
    have hnot : ∀ {bs : List Branch}, (∀ b ∈ bs, Passes b) → headerHere ∉ bs :=
      fun hall hb ↦ not_passes_headerHere (hall _ hb)
    obtain ⟨rfl, -, -⟩ := (List.append_cons_inj_of_notMem (hnot hfront) (hnot hback)).mp heq
    exact ⟨h.eq_implicit hfront, .headed hfront (List.forall_mem_nil _)⟩

/-! ## Tables and lists of tables -/

/-- What is said about a list of tables starts with a header of its first table. -/
theorem YieldsItems.head {bs : List Branch} {items : List Tree} (h : YieldsItems bs items) :
    bs = [] ∨ ∃ more, bs = elementHere :: more := by
  cases h with
  | nil => exact .inl rfl
  | cons hmade =>
    cases hmade with
    | element => exact .inr ⟨_, List.cons_append⟩

/-- The branches of a table stand for a table, whatever else is said. -/
theorem Yields.of_made {making : Making} {bs rest : List Branch} {t : Tree}
    (h : Yields (bs ++ rest) t) (hmade : Made making bs) (halone : making ≠ .element) :
    ∃ how es, t = .table es ∧ how ≠ .element ∧ Made how (bs ++ rest) ∧
      Tabulates (inside (bs ++ rest)) es := by
  obtain ⟨b, more, rfl⟩ := List.exists_cons_of_ne_nil hmade.ne_nil
  obtain ⟨all, heq⟩ : ∃ all, all = b :: more ++ rest := ⟨_, rfl⟩
  rw [← heq] at h ⊢
  cases h with
  | value =>
    obtain rfl := (List.cons_eq_cons.mp heq).1
    exact absurd rfl (hmade.via_ne_last List.mem_cons_self)
  | table hmade halone h => exact ⟨_, _, rfl, halone, hmade, h⟩
  | list hne h =>
    obtain rfl | ⟨_, rfl⟩ := h.head
    · exact absurd rfl hne
    · cases heq
      exact absurd (hmade.eq_element List.mem_cons_self) halone

/-- Nothing may be added to a value. -/
theorem not_yields_value {u t : Tree} {b : Branch} {rest : List Branch} :
    ¬Yields ((.last, ⟨[], .value u⟩) :: b :: rest) t := by
  intro h
  cases h with
  | table hmade => exact absurd rfl (hmade.via_ne_last List.mem_cons_self)
  | list _ h =>
    obtain h | ⟨_, h⟩ := h.head
    · cases h
    · cases h

/-- A header with double brackets stands for a list. -/
theorem Yields.of_elementHere {bs more : List Branch} {t : Tree} (h : Yields bs t)
    (hhead : bs = elementHere :: more) : ∃ items, t = .list items ∧ YieldsItems bs items := by
  cases h with
  | value => cases hhead
  | table hmade halone => exact absurd (hmade.eq_element (hhead ▸ List.mem_cons_self)) halone
  | list _ h => exact ⟨_, rfl, h⟩

/-- What leads further belongs to the table before it. -/
theorem passes_append_inj {front rest back more : List Branch} (hfront : ∀ b ∈ front, Passes b)
    (hmore : more = [] ∨ ∃ more', more = elementHere :: more')
    (heq : front ++ rest = back ++ more) :
    ∃ middle, back = front ++ middle ∧ rest = middle ++ more := by
  obtain h | ⟨extra, rfl, rfl⟩ := List.append_eq_append_iff.mp heq
  · exact h
  cases extra with
  | nil => exact ⟨[], by simp⟩
  | cons b extra =>
    obtain hmore | ⟨_, hmore⟩ := hmore
    · cases hmore
    · cases hmore
      exact absurd (hfront _ (List.mem_append_right _ List.mem_cons_self)) not_passes_elementHere

/-- The first table of a list has at least what leads further, and the other tables the rest. -/
theorem YieldsItems.uncons {front rest : List Branch} {items : List Tree}
    (h : YieldsItems (elementHere :: (front ++ rest)) items) (hfront : ∀ b ∈ front, Passes b) :
    ∃ middle more es items', rest = middle ++ more ∧ (∀ b ∈ middle, Passes b) ∧
      items = .table es :: items' ∧ Tabulates (inside (elementHere :: (front ++ middle))) es ∧
      YieldsItems more items' := by
  obtain ⟨all, heq⟩ : ∃ all, all = elementHere :: (front ++ rest) := ⟨_, rfl⟩
  rw [← heq] at h
  cases h with
  | nil => cases heq
  | cons hmade h hmore =>
    cases hmade with
    | element hback =>
      obtain ⟨middle, rfl, rfl⟩ := passes_append_inj hfront hmore.head
        (List.cons_eq_cons.mp heq).2.symm
      exact ⟨middle, _, _, _, rfl, fun b hb ↦ hback b (List.mem_append_right _ hb), rfl, h, hmore⟩

/-- The first table of a list ends where the next one starts. -/
theorem YieldsItems.uncons_of_head {back more : List Branch} {items : List Tree}
    (h : YieldsItems (elementHere :: (back ++ more)) items) (hback : ∀ b ∈ back, Passes b)
    (hmore : more = [] ∨ ∃ more', more = elementHere :: more') :
    ∃ es items', items = .table es :: items' ∧ Tabulates (inside (elementHere :: back)) es ∧
      YieldsItems more items' := by
  obtain ⟨middle, more', es, items', rfl, hmiddle, rfl, htable, hitems⟩ := h.uncons hback
  cases middle with
  | nil =>
    rw [List.append_nil] at htable
    exact ⟨es, items', rfl, htable, hitems⟩
  | cons b middle =>
    obtain hmore | ⟨_, hmore⟩ := hmore
    · cases hmore
    · cases hmore
      exact absurd (hmiddle _ List.mem_cons_self) not_passes_elementHere

theorem YieldsItems.eq_nil {items : List Tree} (h : YieldsItems [] items) : items = [] := by
  obtain ⟨bs, heq⟩ : ∃ bs : List Branch, bs = [] := ⟨_, rfl⟩
  rw [← heq] at h
  cases h with
  | nil => rfl
  | cons hmade => exact absurd (List.append_eq_nil_iff.mp heq).1 hmade.ne_nil

/-! ## Statements are no deeper than what they say -/

/-- How deep what a mark says is nested. -/
def Mark.depth : Mark → Nat
  | .value t => t.depth
  | .header | .element => 1

/-- A property of all that a mark says. -/
def Mark.Every (p : Tree → Prop) : Mark → Prop
  | .value t => t.Every p
  | .header | .element => True

/-- What a statement says is found in a tree. -/
structure Statement.Within (s : Statement) (t : Tree) : Prop where
  depth_le : s.path.length + s.mark.depth ≤ t.depth
  every : ∀ p : Tree → Prop, t.Every p → s.mark.Every p

theorem Statement.Within.entry {via : Via} {s : Statement} {e : String × Tree} {es : Entries}
    (h : s.Within e.2) (he : e ∈ es) : Within ⟨(via, e.1) :: s.path, s.mark⟩ (.table es) where
  depth_le := by
    have hle := Tree.depthOfEntries_le_iff.mp (Nat.le_refl _) e he
    have := h.depth_le
    show s.path.length + 1 + s.mark.depth ≤ Tree.depthOfEntries es + 1
    omega
  every p hp := h.every p (Tree.everyEntry_iff.mp hp.2 e he)

theorem Statement.Within.item {s : Statement} {t : Tree} {items : List Tree} (h : s.Within t)
    (ht : t ∈ items) : s.Within (.list items) where
  depth_le := by
    have hle := Tree.depthOfItems_le_iff.mp (Nat.le_refl _) t ht
    have := h.depth_le
    rw [Tree.depth]
    omega
  every p hp := h.every p (Tree.everyItem_iff.mp hp.2 t ht)

theorem mem_branches {via : Via} {key : String} {path : List (Via × String)} {mark : Mark}
    {ss : List Statement} (h : ⟨(via, key) :: path, mark⟩ ∈ ss) :
    (via, ⟨path, mark⟩) ∈ branches key ss :=
  List.mem_filterMap.mpr ⟨_, h, if_pos rfl⟩

/-- A branch is about one of the tables of a list. -/
theorem YieldsItems.exists_table {bs : List Branch} {items : List Tree} (h : YieldsItems bs items)
    {b : Branch} (hb : b ∈ bs) : ∃ chunk es, b ∈ chunk ∧ Made .element chunk ∧
      Tree.table es ∈ items ∧ Tabulates (inside chunk) es := by
  induction items generalizing bs with
  | nil =>
    cases h with
    | nil => cases hb
  | cons t items ih =>
    cases h with
    | cons hmade h hmore =>
      obtain hb | hb := List.mem_append.mp hb
      · exact ⟨_, _, hb, hmade, List.mem_cons_self, h⟩
      · obtain ⟨chunk, es, hb, hmade, hmem, h⟩ := ih hmore hb
        exact ⟨chunk, es, hb, hmade, List.mem_cons_of_mem _ hmem, h⟩

/-- A header of a table is found in every table. -/
theorem Statement.within_table {mark : Mark} {es : Entries} (hdepth : mark.depth = 1)
    (hevery : ∀ p, mark.Every p) : Within ⟨[], mark⟩ (.table es) where
  depth_le := by
    rw [hdepth, Tree.depth, List.length_nil]
    omega
  every p _ := hevery p

/-- **What the statements about a table say is found in it.** -/
theorem Tabulates.within {ss : List Statement} {es : Entries} (h : Tabulates ss es) {s : Statement}
    (hs : s ∈ ss) : s.Within (.table es) := by
  obtain ⟨path, mark⟩ := s
  induction path generalizing ss es with
  | nil =>
    cases h with
    | intro _ hall =>
      obtain ⟨e, -, hkey⟩ := hall _ hs
      cases hkey
  | cons step path ih =>
    obtain ⟨via, key⟩ := step
    cases h with
    | intro _ hall h =>
      obtain ⟨e, he, hkey⟩ := hall _ hs
      obtain rfl : key = e.1 := Option.some.inj hkey
      refine Statement.Within.entry (s := ⟨path, mark⟩) ?_ he
      have hb := mem_branches hs
      have htable : ∀ {making : Making} {bs : List Branch} {es : Entries}, Made making bs →
          (via, ⟨path, mark⟩) ∈ bs → Tabulates (inside bs) es →
          Statement.Within ⟨path, mark⟩ (.table es) := by
        intro making bs es hmade hb h
        have hinside : path ≠ [] → Statement.Within ⟨path, mark⟩ (.table es) :=
          fun hne ↦ ih h (mem_inside_iff.mpr ⟨⟨_, hb, rfl⟩, hne⟩)
        obtain ⟨-, hdots⟩ | hpasses | ⟨-, heq⟩ | ⟨-, heq⟩ := hmade.mem_cases hb
        · exact hinside hdots.2
        · exact hinside hpasses.2
        · cases heq
          exact Statement.within_table rfl fun _ ↦ trivial
        · cases heq
          exact Statement.within_table rfl fun _ ↦ trivial
      obtain ⟨bs, hbs⟩ : ∃ bs, branches e.1 ss = bs := ⟨_, rfl⟩
      have hyields := h e he
      obtain ⟨t, ht⟩ : ∃ t, e.2 = t := ⟨_, rfl⟩
      rw [hbs, ht] at hyields
      rw [hbs] at hb
      rw [ht]
      cases hyields with
      | value =>
        obtain ⟨-, rfl, rfl⟩ := List.mem_singleton.mp hb
        exact ⟨Nat.le_of_eq (Nat.zero_add _), fun _ hp ↦ hp⟩
      | table hmade _ h => exact htable hmade hb h
      | list _ h =>
        obtain ⟨chunk, es, hb, hmade, hmem, h⟩ := h.exists_table hb
        exact (htable hmade hb h).item hmem

end HexSigner.Toml
