import HexSigner.Proofs.Toml.Extract
import HexSigner.Proofs.Toml.Paths
import HexSigner.Proofs.Toml.Statements
import Mathlib.Data.List.Forall2
import Mathlib.Data.List.Perm.Basic

/-!
# Statements go into tables

A reader works through the statements of a document and puts each of them into the tables that it
has so far.  `TableShows` says that a table is what the statements up to now say, in the same way in
which `Tabulates` says it of a tree; beyond that, each table remembers how it came about, which is
what the reader goes by when it refuses a statement.

Statements that say something together are never refused, and each of them is added to what a table
shows (`Adds`).  For a change at the end of a path this follows from the change itself, key by key
(`Adds.update_header`, `Adds.update_dot`).  So what is shown in the end is what the statements say
(`TableShows.denotes`).
-/

set_option autoImplicit false

namespace HexSigner.Toml

open Document

/-! ## What tables show -/

/-- What a table that is made in a way remembers of it. -/
def Making.origin : Making → Origin
  | .dotted => .dotted
  | .implicit => .implicit
  | .headed | .element => .header

theorem Making.origin_ne_inline (making : Making) : making.origin ≠ .inline := by
  cases making <;> decide

mutual

/-- The entries of a table are what the statements about it say. -/
inductive TableShows : List (Key × Node) → List Statement → Prop
  | intro {entries : List (Key × Node)} {ss : List Statement}
      (hkeys : (entries.map (·.1.name)).Nodup)
      (hall : ∀ s ∈ ss, ∃ e ∈ entries, s.key? = some e.1.name)
      (h : ∀ e ∈ entries, NodeShows e.2 (branches e.1.name ss)) : TableShows entries ss

/-- The value of a key is what the branches of the key say. -/
inductive NodeShows : Node → List Branch → Prop
  | value {node : Node} {t : Tree} (h : NodeDenotes node t) :
    NodeShows node [(.last, ⟨[], .value t⟩)]
  | table {making : Making} {t : Table} {bs : List Branch} (hmade : Made making bs)
      (halone : making ≠ .element) (horigin : t.origin = making.origin)
      (h : TableShows t.entries (inside bs)) : NodeShows (.table t) bs
  | tables {ts : List Table} {bs : List Branch} (hne : bs ≠ []) (h : TablesShow ts bs) :
    NodeShows (.tables ts) bs

/-- The tables of a list are what the branches of its key say. -/
inductive TablesShow : List Table → List Branch → Prop
  | nil : TablesShow [] []
  | cons {t : Table} {ts : List Table} {bs more : List Branch} (hmade : Made .element bs)
      (horigin : t.origin = .header) (h : TableShows t.entries (inside bs))
      (hmore : TablesShow ts more) : TablesShow (t :: ts) (bs ++ more)

end

theorem TableShows.empty : TableShows [] [] :=
  .intro List.nodup_nil (List.forall_mem_nil _) (List.forall_mem_nil _)

theorem exists_key_of_branches {key : String} {ss : List Statement} (h : branches key ss ≠ []) :
    ∃ s ∈ ss, s.key? = some key := by
  by_contra! hnone
  exact h (branches_eq_nil hnone)

theorem NodeShows.ne_nil {node : Node} {bs : List Branch} (h : NodeShows node bs) : bs ≠ [] := by
  cases h with
  | value => exact List.cons_ne_nil _ _
  | table hmade => exact hmade.ne_nil
  | tables hne => exact hne

theorem TablesShow.head {ts : List Table} {bs : List Branch} (h : TablesShow ts bs) :
    bs = [] ∨ ∃ more, bs = elementHere :: more := by
  cases h with
  | nil => exact .inl rfl
  | cons hmade =>
    cases hmade with
    | element => exact .inr ⟨_, List.cons_append⟩

theorem Yields.ne_nil {bs : List Branch} {t : Tree} (h : Yields bs t) : bs ≠ [] := by
  cases h with
  | value => exact List.cons_ne_nil _ _
  | table hmade => exact hmade.ne_nil
  | list hne => exact hne

/-! ## What is shown is what is said -/

theorem EntryDenotes.key_eq {e : Key × Node} {e' : String × Tree} (h : EntryDenotes e e') :
    e'.1 = e.1.name := by
  cases h
  rfl

theorem map_key_eq {entries : List (Key × Node)} {es : Entries}
    (h : List.Forall₂ EntryDenotes entries es) : es.map (·.1) = entries.map (·.1.name) := by
  induction h with
  | nil => rfl
  | cons h _ ih => rw [List.map_cons, List.map_cons, h.key_eq, ih]

theorem exists_entries {entries : List (Key × Node)} {es : Entries}
    (h : ∀ e ∈ entries, ∃ t, (e.1.name, t) ∈ es ∧ NodeDenotes e.2 t) :
    ∃ es', List.Forall₂ EntryDenotes entries es' ∧ ∀ e ∈ es', e ∈ es := by
  induction entries with
  | nil => exact ⟨[], .nil, List.forall_mem_nil _⟩
  | cons e entries ih =>
    rw [List.forall_mem_cons] at h
    obtain ⟨t, ht, hdenotes⟩ := h.1
    obtain ⟨es', hes', hsub⟩ := ih h.2
    exact ⟨(e.1.name, t) :: es', .cons (.intro hdenotes) hes', List.forall_mem_cons.mpr ⟨ht, hsub⟩⟩

/-- Entries that denote entries of a table, one for each of its keys, denote the table. -/
theorem exists_perm_of_entries {entries : List (Key × Node)} {es : Entries}
    (hentries : (entries.map (·.1.name)).Nodup) (hkeys : (es.map (·.1)).Nodup)
    (hnodes : ∀ e ∈ entries, ∃ t, (e.1.name, t) ∈ es ∧ NodeDenotes e.2 t)
    (hall : ∀ e ∈ es, e.1 ∈ entries.map (·.1.name)) :
    ∃ es', List.Forall₂ EntryDenotes entries es' ∧ es'.Perm es := by
  obtain ⟨es', hes', hsub⟩ := exists_entries hnodes
  have hnames := map_key_eq hes'
  refine ⟨es', hes', (List.perm_ext_iff_of_nodup (.of_map _ (hnames ▸ hentries))
    (.of_map _ hkeys)).mpr fun e ↦ ⟨hsub e, fun he ↦ ?_⟩⟩
  -- The entry with the same key is the same one.
  obtain ⟨e', he', hkey⟩ := List.mem_map.mp (hnames ▸ hall e he)
  exact List.inj_on_of_nodup_map hkeys (hsub e' he') he hkey ▸ he'

mutual

theorem TableShows.denotes : ∀ {entries : List (Key × Node)} {ss : List Statement} {es : Entries},
    TableShows entries ss → Tabulates ss es →
    ∃ es', List.Forall₂ EntryDenotes entries es' ∧ es'.Perm es
  | entries, ss, es, .intro hentries hcover h, .intro hkeys hall hyields => by
    refine exists_perm_of_entries hentries hkeys (fun e he ↦ ?_) fun e he ↦ ?_
    · obtain ⟨s, hs, hkey⟩ := exists_key_of_branches (h e he).ne_nil
      obtain ⟨⟨key, t⟩, he', hkey'⟩ := hall s hs
      obtain rfl : e.1.name = key := Option.some.inj (hkey.symm.trans hkey')
      exact ⟨t, he', (h e he).denotes (hyields _ he')⟩
    · obtain ⟨s, hs, hkey⟩ := exists_key_of_branches (hyields e he).ne_nil
      obtain ⟨e', he', hkey'⟩ := hcover s hs
      exact List.mem_map.mpr ⟨e', he', Option.some.inj (hkey'.symm.trans hkey)⟩

theorem NodeShows.denotes : ∀ {node : Node} {bs : List Branch} {t : Tree}, NodeShows node bs →
    Yields bs t → NodeDenotes node t
  | _, _, t, .value h, hyields => by
    cases hyields with
    | value => exact h
    | table hmade => exact absurd rfl (hmade.via_ne_last List.mem_cons_self)
    | list _ h =>
      obtain h | ⟨_, h⟩ := h.head
      · cases h
      · cases h
  | _, bs, t, .table hmade halone _ h, hyields => by
    rw [← List.append_nil bs] at hyields
    obtain ⟨how, es, rfl, -, -, htable⟩ := hyields.of_made hmade halone
    rw [List.append_nil] at htable
    obtain ⟨es', hes', hperm⟩ := h.denotes htable
    exact .table hes' hperm
  | _, bs, t, .tables hne h, hyields => by
    obtain ⟨more, hhead⟩ := h.head.resolve_left hne
    obtain ⟨items, rfl, hitems⟩ := hyields.of_elementHere hhead
    exact .tables (h.denotes hitems)

theorem TablesShow.denotes : ∀ {ts : List Table} {bs : List Branch} {items : List Tree},
    TablesShow ts bs → YieldsItems bs items → List.Forall₂ NodeDenotes (ts.map .table) items
  | _, _, items, .nil, hyields => by
    rw [hyields.eq_nil]
    exact .nil
  | _, _, items, .cons (.element hback) _ h hmore, hyields => by
    obtain ⟨es, items', rfl, htable, hitems⟩ := hyields.uncons_of_head hback hmore.head
    obtain ⟨es', hes', hperm⟩ := h.denotes htable
    exact .cons (.table hes' hperm) (hmore.denotes hitems)

end

/-! ## Changes of one key -/

theorem TableShows.nodup {entries : List (Key × Node)} {ss : List Statement}
    (h : TableShows entries ss) : (entries.map (·.1.name)).Nodup := by
  cases h
  assumption

/-- Nothing was said yet about a key that a table does not have. -/
theorem TableShows.branches_eq_nil {t : Table} {ss : List Statement} (h : TableShows t.entries ss)
    {name : String} (hname : t.find? name = none) : branches name ss = [] := by
  cases h with
  | intro _ hall =>
    refine Toml.branches_eq_nil fun s hs hkey ↦ ?_
    obtain ⟨e, he, hkey'⟩ := hall s hs
    exact find?_eq_none_iff.mp hname e he (Option.some.inj (hkey'.symm.trans hkey))

theorem TableShows.of_find? {t : Table} {ss : List Statement} (h : TableShows t.entries ss)
    {name : String} {node : Node} (hname : t.find? name = some node) :
    NodeShows node (branches name ss) := by
  cases h with
  | intro _ _ h =>
    obtain ⟨key, hmem, rfl⟩ := mem_of_find? hname
    exact h _ hmem

/-- A statement changes the value of one key. -/
theorem TableShows.add {entries entries' : List (Key × Node)} {ss : List Statement}
    (h : TableShows entries ss) {s : Statement} {name : String} (hs : s.key? = some name)
    (hkeys : (entries'.map (·.1.name)).Nodup)
    (hothers : ∀ e, e.1.name ≠ name → (e ∈ entries' ↔ e ∈ entries))
    {key : Key} {node : Node} (hmem : (key, node) ∈ entries') (hkey : key.name = name)
    (hnode : NodeShows node (branches name (ss ++ [s]))) : TableShows entries' (ss ++ [s]) := by
  cases h with
  | intro _ hall h =>
    refine .intro hkeys ?_ fun e he ↦ ?_
    · rw [List.forall_mem_append, List.forall_mem_singleton]
      refine ⟨fun s' hs' ↦ ?_, _, hmem, hkey ▸ hs⟩
      obtain ⟨e, he, hkey'⟩ := hall s' hs'
      by_cases hne : e.1.name = name
      · exact ⟨_, hmem, hkey'.trans (congrArg some (hne.trans hkey.symm))⟩
      · exact ⟨e, (hothers e hne).mpr he, hkey'⟩
    · by_cases hne : e.1.name = name
      · obtain rfl : e = (key, node) :=
          List.inj_on_of_nodup_map hkeys he hmem (hne.trans hkey.symm)
        exact hkey ▸ hnode
      · have hother : branches e.1.name (ss ++ [s]) = branches e.1.name ss := by
          have hs' : s.key? ≠ some e.1.name := fun heq ↦ hne (Option.some.inj (heq.symm.trans hs))
          rw [branches_append, branches_cons_of_ne hs']
          exact List.append_nil _
        rw [hother]
        exact h e ((hothers e hne).mp he)

theorem nodup_append_name {entries : List (Key × Node)} (h : (entries.map (·.1.name)).Nodup)
    {key : Key} (hnew : ∀ e ∈ entries, e.1.name ≠ key.name) (node : Node) :
    ((entries ++ [(key, node)]).map (·.1.name)).Nodup := by
  rw [List.map_append, List.map_singleton, ← List.concat_eq_append]
  refine h.concat fun hmem ↦ ?_
  obtain ⟨e, he, hname⟩ := List.mem_map.mp hmem
  exact hnew e he hname

theorem TableShows.append {t : Table} {ss : List Statement} (h : TableShows t.entries ss)
    {s : Statement} {key : Key} (hs : s.key? = some key.name) (hnone : t.find? key.name = none)
    {node : Node} (hnode : NodeShows node (branches key.name (ss ++ [s]))) :
    TableShows (t.append key node).entries (ss ++ [s]) := by
  refine h.add hs (nodup_append_name h.nodup (find?_eq_none_iff.mp hnone) node) (fun e hne ↦ ?_)
    (List.mem_append_right _ List.mem_cons_self) rfl hnode
  have hother : e ≠ (key, node) := fun heq ↦ hne (congrArg (·.1.name) heq)
  simp [TableOf.append, hother]

theorem TableShows.replace {t : Table} {ss : List Statement} (h : TableShows t.entries ss)
    {s : Statement} {name : String} (hs : s.key? = some name) {old : Node}
    (hold : t.find? name = some old) {node : Node}
    (hnode : NodeShows node (branches name (ss ++ [s]))) :
    TableShows (t.replace name node).entries (ss ++ [s]) := by
  obtain ⟨key, hmem, rfl⟩ := mem_of_find? hold
  have hnames : (t.replace key.name node).entries.map (·.1.name) = t.entries.map (·.1.name) := by
    rw [TableOf.replace, List.map_map]
    rfl
  have hnew : (key, node) ∈ (t.replace key.name node).entries :=
    List.mem_map.mpr ⟨(key, old), hmem, by simp⟩
  refine h.add hs (hnames ▸ h.nodup) (fun e hne ↦ ?_) hnew rfl hnode
  · refine ⟨fun he ↦ ?_, fun he ↦ List.mem_map.mpr ⟨e, he, ?_⟩⟩
    · obtain ⟨e', he', rfl⟩ := List.mem_map.mp he
      dsimp only at hne ⊢
      rwa [if_neg hne]
    · dsimp only
      rw [if_neg hne]

/-! ## Adding a statement -/

/-- A change of tables adds a statement to what they show, if all that is said is about something.
The change may depend on how a table came about, and does not change that. -/
def Adds {α : Type} (from? : Origin → Prop) (s : Statement)
    (change : Table → Option (α × Table)) : Prop :=
  ∀ (t : Table) (ss rest : List Statement) (es : Entries), from? t.origin →
    TableShows t.entries ss → Tabulates (ss ++ s :: rest) es →
    ∃ a t', change t = some (a, t') ∧ t'.origin = t.origin ∧ TableShows t'.entries (ss ++ [s])

/-- The branches of the key of a statement, in the order in which the statements come. -/
theorem Tabulates.yields {via : Via} {key : String} {path : List (Via × String)} {mark : Mark}
    {ss rest : List Statement} {es : Entries}
    (h : Tabulates (ss ++ ⟨(via, key) :: path, mark⟩ :: rest) es) :
    ∃ t, Yields (branches key ss ++ (via, ⟨path, mark⟩) :: branches key rest) t := by
  cases h with
  | intro _ hall h =>
    obtain ⟨e, he, hkey⟩ := hall _ (List.mem_append_right _ List.mem_cons_self)
    obtain rfl : key = e.1 := Option.some.inj hkey
    have hyields := h e he
    rw [branches_append, branches_cons_self] at hyields
    exact ⟨e.2, hyields⟩

theorem branches_snoc (via : Via) (key : String) (path : List (Via × String)) (mark : Mark)
    (ss : List Statement) : branches key (ss ++ [⟨(via, key) :: path, mark⟩]) =
      branches key ss ++ [(via, ⟨path, mark⟩)] := by
  rw [branches_append, branches_cons_self]
  rfl

/-- A value can only be said of a key of which nothing was said. -/
theorem Yields.eq_nil_of_last {bs rest : List Branch} {b : Branch} {t : Tree}
    (h : Yields (bs ++ b :: rest) t) (hb : b.1 = .last) : bs = [] := by
  obtain ⟨all, heq⟩ : ∃ all, all = bs ++ b :: rest := ⟨_, rfl⟩
  have hmem : b ∈ all := heq ▸ List.mem_append_right _ List.mem_cons_self
  rw [← heq] at h
  cases h with
  | value =>
    obtain ⟨hnil, -⟩ | ⟨-, hnil⟩ := List.append_eq_singleton_iff.mp heq.symm
    · exact hnil
    · cases hnil
  | table hmade => exact absurd hb (hmade.via_ne_last hmem)
  | list _ h =>
    obtain ⟨chunk, es, hmem, hmade, -⟩ := h.exists_table hmem
    exact absurd hb (hmade.via_ne_last hmem)

/-! ## Changes at the end of a path -/

theorem TablesShow.single {t : Table} {bs : List Branch} (hmade : Made .element bs)
    (horigin : t.origin = .header) (h : TableShows t.entries (inside bs)) : TablesShow [t] bs := by
  have hshows := TablesShow.cons hmade horigin h .nil
  rwa [List.append_nil] at hshows

/-- A list goes on in its last table. -/
theorem TablesShow.grow {ts : List Table} {bs rest : List Branch} {b : Branch} {items : List Tree}
    (h : TablesShow ts bs) (hne : bs ≠ []) (hitems : YieldsItems (bs ++ b :: rest) items)
    (hb : Passes b) :
    ∃ front last chunk back es, ts = front ++ [last] ∧ last.origin = .header ∧
      TableShows last.entries (inside chunk) ∧ Tabulates (inside (chunk ++ b :: back)) es ∧
      ∀ last' : Table, last'.origin = .header →
        TableShows last'.entries (inside (chunk ++ [b])) →
        TablesShow (front ++ [last']) (bs ++ [b]) := by
  induction ts generalizing bs items with
  | nil =>
    cases h
    exact absurd rfl hne
  | cons t ts ih =>
    cases h with
    | @cons _ _ chunk more hmade horigin h hmore =>
      obtain ⟨back, rfl, hback⟩ : ∃ back, chunk = elementHere :: back ∧ ∀ b ∈ back, Passes b := by
        cases hmade with
        | element hback => exact ⟨_, rfl, hback⟩
      cases ts with
      | nil =>
        cases hmore
        rw [List.append_nil] at hitems ⊢
        have hfront : ∀ b' ∈ back ++ [b], Passes b' := by
          rw [List.forall_mem_append, List.forall_mem_singleton]
          exact ⟨hback, hb⟩
        have hsplit : elementHere :: back ++ b :: rest = elementHere :: (back ++ [b] ++ rest) := by
          simp
        obtain ⟨middle, -, es, -, -, -, -, htable, -⟩ := (hsplit ▸ hitems).uncons hfront
        refine ⟨[], t, _, middle, es, rfl, horigin, h, by simpa using htable, ?_⟩
        intro last' horigin' hshows
        exact .single (hmade.append_passes hb) horigin' hshows
      | cons u ts =>
        have hhead := hmore.head
        have hmorene : more ≠ [] := by
          cases hmore with
          | cons hmade => exact List.append_ne_nil_of_left_ne_nil hmade.ne_nil _
        obtain ⟨more', rfl⟩ := hhead.resolve_left hmorene
        have hsplit : elementHere :: back ++ elementHere :: more' ++ b :: rest =
            elementHere :: (back ++ (elementHere :: more' ++ b :: rest)) := by
          simp
        obtain ⟨es, items', rfl, -, hitems'⟩ :=
          (hsplit ▸ hitems).uncons_of_head hback (.inr ⟨_, List.cons_append⟩)
        obtain ⟨front, last, chunk, left, es, hts, hlast, hshows, htable, hnext⟩ :=
          ih hmore hmorene hitems'
        refine ⟨t :: front, last, chunk, left, es, by rw [hts]; rfl, hlast, hshows, htable, ?_⟩
        intro last' horigin' hshows'
        rw [List.append_assoc]
        exact .cons hmade horigin h (hnext last' horigin' hshows')

/-- A list gets another table. -/
theorem TablesShow.snoc {ts : List Table} {bs : List Branch} (h : TablesShow ts bs) {t : Table}
    (horigin : t.origin = .header) (ht : t.entries = []) :
    TablesShow (ts ++ [t]) (bs ++ [elementHere]) := by
  induction ts generalizing bs with
  | nil =>
    cases h
    exact .single (.element (List.forall_mem_nil _)) horigin (ht ▸ TableShows.empty)
  | cons u ts ih =>
    cases h with
    | cons hmade horigin h hmore =>
      rw [List.append_assoc]
      exact .cons hmade horigin h (ih hmore)

/-- What a branch says is added to the table that the branches are about. -/
theorem Adds.inside {α : Type} {from? : Origin → Prop} {b : Branch}
    {f : Table → Option (α × Table)} (h : Adds from? b.2 f) (hb : b.2.path ≠ [])
    {bs rest : List Branch} {es : Entries} {t : Table} (hfrom : from? t.origin)
    (hshows : TableShows t.entries (inside bs))
    (htable : Tabulates (inside (bs ++ b :: rest)) es) :
    ∃ a t', f t = some (a, t') ∧ t'.origin = t.origin ∧
      TableShows t'.entries (Toml.inside (bs ++ [b])) := by
  rw [inside_append, inside_cons_of_ne_nil hb] at htable ⊢
  exact h t _ _ es hfrom hshows htable

section Update

variable {α : Type} {from? : Origin → Prop} {dotted : Bool} {path : List Key}
  {change : Table → Option (α × Table)} {b : Branch} (hb : b.2.path ≠ [])
  (h : Adds from? b.2 (TableOf.update dotted path change)) {t : Table} {ss : List Statement}
  (hshows : TableShows t.entries ss) {s : Statement} {key : Key} (hs : s.key? = some key.name)
include hb h hshows hs

/-- A statement makes a new table. -/
theorem Adds.update_of_none {making : Making} (hmade : Made making [b]) (halone : making ≠ .element)
    (horigin : (if dotted then .dotted else .implicit) = making.origin)
    (hfrom : from? making.origin) (hfind : t.find? key.name = none)
    (hbranches : branches key.name (ss ++ [s]) = [b]) {rest : List Branch} {u : Tree}
    (hyields : Yields ([b] ++ rest) u) :
    ∃ a t', TableOf.update dotted (key :: path) change t = some (a, t') ∧ t'.origin = t.origin ∧
      TableShows t'.entries (ss ++ [s]) := by
  obtain ⟨-, es, rfl, -, -, htable⟩ := hyields.of_made hmade halone
  rw [← List.nil_append ([b] ++ rest)] at htable
  have hnew : from? (TableOf.empty (if dotted then .dotted else .implicit)).origin := by
    rw [TableOf.empty, horigin]
    exact hfrom
  have hempty : TableShows [] (Toml.inside []) := .empty
  obtain ⟨a, child, hchild, horigin', hinside⟩ := h.inside hb hnew hempty htable
  refine ⟨a, t.append key (.table child), ?_, rfl, hshows.append hs hfind ?_⟩
  · rw [update_eq_of_none hfind, hchild]
    rfl
  · rw [hbranches]
    exact .table hmade halone (horigin'.trans horigin) hinside

/-- A statement is about a table that is there already. -/
theorem Adds.update_of_table {making : Making} {bs rest : List Branch} {child : Table}
    {es : Entries} (hmade : Made making (bs ++ [b])) (halone : making ≠ .element)
    (horigin : child.origin = making.origin) (hheader : dotted → child.origin ≠ .header)
    (hfrom : from? child.origin) (hfind : t.find? key.name = some (.table child))
    (hinside : TableShows child.entries (Toml.inside bs))
    (hbranches : branches key.name (ss ++ [s]) = bs ++ [b])
    (htable : Tabulates (Toml.inside (bs ++ b :: rest)) es) :
    ∃ a t', TableOf.update dotted (key :: path) change t = some (a, t') ∧ t'.origin = t.origin ∧
      TableShows t'.entries (ss ++ [s]) := by
  obtain ⟨a, child', hchild, horigin', hinside'⟩ := h.inside hb hfrom hinside htable
  have hinline := horigin ▸ Making.origin_ne_inline making
  refine ⟨a, t.replace key.name (.table child'), ?_, rfl, hshows.replace hs hfind ?_⟩
  · rw [update_eq_of_table hfind ⟨hinline, hheader⟩, hchild]
    rfl
  · rw [hbranches]
    exact .table hmade halone (horigin'.trans horigin) hinside'

end Update

/-- **A header that leads further is added by a change at its end.** -/
theorem Adds.update_header {α : Type} {path : List Key} {change : Table → Option (α × Table)}
    {s : Statement} (h : Adds (fun _ ↦ True) s (TableOf.update false path change))
    (hs : s.path ≠ []) (key : Key) (from? : Origin → Prop) :
    Adds from? ⟨(.header, key.name) :: s.path, s.mark⟩
      (TableOf.update false (key :: path) change) := by
  intro t ss rest es _ hshows htable
  obtain ⟨u, hyields⟩ := htable.yields
  have hbranches := branches_snoc .header key.name s.path s.mark ss
  have hpasses : Passes (.header, s) := ⟨rfl, hs⟩
  cases hfind : t.find? key.name with
  | none =>
    have hmade : Made .implicit [(.header, s)] :=
      .implicit (List.cons_ne_nil _ _) (by rw [List.forall_mem_singleton]; exact hpasses)
    rw [hshows.branches_eq_nil hfind] at hbranches hyields
    exact Adds.update_of_none (b := (.header, s)) hs h hshows rfl hmade (by decide) rfl trivial
      hfind hbranches hyields
  | some node =>
    have hnode := hshows.of_find? hfind
    obtain ⟨bs, hbs⟩ : ∃ bs, branches key.name ss = bs := ⟨_, rfl⟩
    rw [hbs] at hnode hyields hbranches
    cases hnode with
    | value => exact absurd hyields not_yields_value
    | table hmade halone horigin hinside =>
      obtain ⟨-, es', rfl, -, -, htable'⟩ := hyields.of_made hmade halone
      exact h.update_of_table hs hshows rfl (hmade.append_passes hpasses) halone horigin
        (fun hdotted ↦ absurd hdotted Bool.false_ne_true) trivial hfind hinside hbranches htable'
    | tables hne hts =>
      obtain ⟨more, rfl⟩ := hts.head.resolve_left hne
      obtain ⟨items, rfl, hitems⟩ := hyields.of_elementHere List.cons_append
      obtain ⟨front, last, chunk, back, es', rfl, horigin, hinside, htable', hnext⟩ :=
        hts.grow hne hitems hpasses
      obtain ⟨a, last', hlast, horigin', hinside'⟩ := h.inside hs trivial hinside htable'
      refine ⟨a, t.replace key.name (.tables (front ++ [last'])), ?_, rfl,
        hshows.replace rfl hfind ?_⟩
      · rw [update_eq_of_tables hfind, hlast]
        rfl
      · rw [hbranches]
        exact .tables (List.append_ne_nil_of_left_ne_nil hne _)
          (hnext last' (horigin'.trans horigin) hinside')

/-- **A key with a dot after it is added by a change at the end of the keys.** -/
theorem Adds.update_dot {α : Type} {path : List Key} {change : Table → Option (α × Table)}
    {s : Statement} (h : Adds (· = .dotted) s (TableOf.update true path change))
    (hs : s.path ≠ []) (key : Key) (from? : Origin → Prop) :
    Adds from? ⟨(.dot, key.name) :: s.path, s.mark⟩
      (TableOf.update true (key :: path) change) := by
  intro t ss rest es _ hshows htable
  obtain ⟨u, hyields⟩ := htable.yields
  have hbranches := branches_snoc .dot key.name s.path s.mark ss
  have hdots : Dots (.dot, s) := ⟨rfl, hs⟩
  cases hfind : t.find? key.name with
  | none =>
    have hmade : Made .dotted [(.dot, s)] :=
      .of_dots (List.cons_ne_nil _ _) (by rw [List.forall_mem_singleton]; exact hdots)
    rw [hshows.branches_eq_nil hfind] at hbranches hyields
    exact Adds.update_of_none (b := (.dot, s)) hs h hshows rfl hmade (by decide) rfl rfl hfind
      hbranches hyields
  | some node =>
    have hnode := hshows.of_find? hfind
    obtain ⟨bs, hbs⟩ : ∃ bs, branches key.name ss = bs := ⟨_, rfl⟩
    rw [hbs] at hnode hyields hbranches
    cases hnode with
    | value => exact absurd hyields not_yields_value
    | table hmade halone horigin hinside =>
      obtain ⟨how, es', rfl, -, hall, htable'⟩ := hyields.of_made hmade halone
      -- Only a table of dotted keys takes another one.
      obtain ⟨rfl, hmade'⟩ := hmade.append_dots hall hdots
      exact h.update_of_table hs hshows rfl hmade' halone horigin
        (fun _ ↦ by rw [horigin]; decide) horigin hfind hinside hbranches htable'
    | tables hne hts =>
      obtain ⟨more, rfl⟩ := hts.head.resolve_left hne
      obtain ⟨items, rfl, hitems⟩ := hyields.of_elementHere List.cons_append
      obtain ⟨chunk, es', hmem, hmade, -⟩ :=
        hitems.exists_table (List.mem_append_right _ List.mem_cons_self)
      cases hmade.eq_dotted hmem hdots

/-! ## Entries -/

/-- A value is added. -/
theorem Adds.value {node : Node} {v : Tree} (hnode : NodeDenotes node v) (key : Key)
    (path : List Key) {from? : Origin → Prop}
    (hfrom : ∀ {o : Origin}, from? o → path ≠ [] → o = .dotted) :
    Adds from? ⟨[(.last, key.name)], .value v⟩ fun t ↦ do
      guard (path ≠ [] → t.origin = .dotted)
      guard (t.find? key.name).isNone
      return ((), t.append key node) := by
  intro t ss rest es horigin hshows htable
  obtain ⟨u, hyields⟩ := htable.yields
  have hnil := hyields.eq_nil_of_last rfl
  have hnone : t.find? key.name = none := by
    cases hfind : t.find? key.name with
    | none => rfl
    | some old => exact absurd hnil (hshows.of_find? hfind).ne_nil
  refine ⟨(), t.append key node, ?_, rfl, hshows.append rfl hnone ?_⟩
  · dsimp only
    rw [hnone, guard, if_pos (hfrom horigin)]
    rfl
  · rw [branches_snoc, hnil]
    exact .value hnode

theorem keyPath_cons (key : String) {keys : List String} (h : keys ≠ []) :
    keyPath (key :: keys) = (.dot, key) :: keyPath keys := by
  obtain ⟨key', keys, rfl⟩ := List.exists_cons_of_ne_nil h
  rfl

theorem keyPath_ne_nil {keys : List String} (h : keys ≠ []) : keyPath keys ≠ [] := by
  obtain ⟨key, keys, rfl⟩ := List.exists_cons_of_ne_nil h
  cases keys <;> exact List.cons_ne_nil _ _

theorem Adds.update_dots {α : Type} {change : Table → Option (α × Table)} {key : String}
    {mark : Mark} (h : Adds (· = .dotted) ⟨[(.last, key)], mark⟩ change) (path : List Key) :
    Adds (· = .dotted) ⟨keyPath (path.map (·.name) ++ [key]), mark⟩
      (TableOf.update true path change) := by
  induction path with
  | nil => exact h
  | cons k path ih =>
    have hne : path.map (·.name) ++ [key] ≠ [] :=
      List.append_ne_nil_of_right_ne_nil _ (List.cons_ne_nil _ _)
    rw [List.map_cons, List.cons_append, keyPath_cons _ hne]
    exact ih.update_dot (keyPath_ne_nil hne) k _

/-- **An entry is added.** -/
theorem Adds.insert {node : Node} {v : Tree} (hnode : NodeDenotes node v) (path : List Key)
    (key : Key) (span : Option Span → Option Span) :
    Adds (fun _ ↦ True) ⟨keyPath (path.map (·.name) ++ [key.name]), .value v⟩ fun t ↦
      (t.insert? path key node).map fun u ↦ ((), { u with span := span u.span }) := by
  have hadds : Adds (fun _ ↦ True) ⟨keyPath (path.map (·.name) ++ [key.name]), .value v⟩
      (TableOf.update true path fun t ↦ do
        guard (path ≠ [] → t.origin = .dotted)
        guard (t.find? key.name).isNone
        return ((), t.append key node)) := by
    cases path with
    | nil => exact Adds.value hnode key [] fun _ hne ↦ absurd rfl hne
    | cons k path =>
      have hne : path.map (·.name) ++ [key.name] ≠ [] :=
        List.append_ne_nil_of_right_ne_nil _ (List.cons_ne_nil _ _)
      have hvalue := Adds.value hnode key (k :: path) fun (h : _ = Origin.dotted) _ ↦ h
      rw [List.map_cons, List.cons_append, keyPath_cons _ hne]
      exact (hvalue.update_dots path).update_dot (keyPath_ne_nil hne) k _
  intro t ss rest es horigin hshows htable
  obtain ⟨a, t', hupdate, horigin', hshows'⟩ := hadds t ss rest es horigin hshows htable
  refine ⟨(), { t' with span := span t'.span }, ?_, horigin', hshows'⟩
  dsimp only
  rw [TableOf.insert?, hupdate]
  rfl

/-! ## Headers -/

theorem Adds.update_headers {α : Type} {change : Table → Option (α × Table)} {s : Statement}
    (hs : s.path ≠ []) (h : Adds (fun _ ↦ True) s change) (path : List Key) :
    Adds (fun _ ↦ True) (s.under (path.map (·.name))) (TableOf.update false path change) := by
  induction path with
  | nil => exact h
  | cons k path ih =>
    exact ih.update_header (List.append_ne_nil_of_right_ne_nil _ hs) k _

/-- The table of a header that leads nowhere yet. -/
theorem NodeShows.headed {t : Table} {bs : List Branch} (hmade : Made .headed (bs ++ [headerHere]))
    (horigin : t.origin = .header) (h : TableShows t.entries (inside bs)) :
    NodeShows (.table t) (bs ++ [headerHere]) := by
  refine .table hmade (by decide) horigin ?_
  rw [inside_append, inside_cons_of_nil rfl]
  exact (List.append_nil _).symm ▸ h

/-- **A header of a table is added.** -/
theorem Adds.header (key : Key) (span : Option Span) (from? : Origin → Prop) :
    Adds from? ⟨[(.header, key.name)], .header⟩ fun t ↦
      (t.take key).bind fun (old, u) ↦ TableOf.put key ⟨.header, old, span⟩ u := by
  intro t ss rest es _ hshows htable
  obtain ⟨u, hyields⟩ := htable.yields
  have hbranches := branches_snoc .header key.name [] .header ss
  cases hfind : t.find? key.name with
  | none =>
    have htake : t.take key = some ([], t) := by rw [TableOf.take, hfind]
    rw [hshows.branches_eq_nil hfind] at hbranches
    refine ⟨(), t.append key (.table ⟨.header, [], span⟩), ?_, rfl, hshows.append rfl hfind ?_⟩
    · dsimp only
      rw [htake]
      exact put_of_none hfind _
    · rw [hbranches]
      exact .headed (.headed (List.forall_mem_nil _) (List.forall_mem_nil _)) rfl .empty
  | some node =>
    have hnode := hshows.of_find? hfind
    obtain ⟨bs, hbs⟩ : ∃ bs, branches key.name ss = bs := ⟨_, rfl⟩
    rw [hbs] at hnode hyields hbranches
    cases hnode with
    | value => exact absurd hyields not_yields_value
    | @table making child _ hmade halone horigin hinside =>
      obtain ⟨how, es', rfl, -, hall, -⟩ := hyields.of_made hmade halone
      obtain ⟨rfl, hmade'⟩ := hmade.append_headerHere hall
      have htake : t.take key = some (child.entries, t.erase key.name) := by
        rw [TableOf.take, hfind]
        dsimp only
        rw [horigin]
        rfl
      have hgone := find?_erase_self t key.name
      refine ⟨(), (t.erase key.name).append key (.table ⟨.header, child.entries, span⟩), ?_, rfl,
        hshows.add rfl ?_ (fun e hne ↦ ?_) (List.mem_append_right _ List.mem_cons_self) rfl ?_⟩
      · dsimp only
        rw [htake]
        exact put_of_none hgone _
      · exact nodup_append_name (hshows.nodup.sublist (List.filter_sublist.map _))
          (find?_eq_none_iff.mp hgone) _
      · have hother : e ≠ (key, .table ⟨.header, child.entries, span⟩) :=
          fun heq ↦ hne (congrArg (·.1.name) heq)
        simp [TableOf.append, TableOf.erase, hother, hne]
      · rw [hbranches]
        exact .headed hmade' rfl hinside
    | tables hne hts =>
      obtain ⟨more, rfl⟩ := hts.head.resolve_left hne
      obtain ⟨items, rfl, hitems⟩ := hyields.of_elementHere List.cons_append
      obtain ⟨chunk, es', hmem, hmade, -⟩ :=
        hitems.exists_table (List.mem_append_right _ List.mem_cons_self)
      cases hmade.eq_headed hmem

/-- **A header of another table of a list is added.** -/
theorem Adds.element (key : Key) (span : Option Span) (from? : Origin → Prop) :
    Adds from? ⟨[(.header, key.name)], .element⟩ fun t ↦
      (t.makeList key).bind fun (_, u) ↦ TableOf.push key ⟨.header, [], span⟩ u := by
  intro t ss rest es _ hshows htable
  obtain ⟨u, hyields⟩ := htable.yields
  have hbranches := branches_snoc .header key.name [] .element ss
  cases hfind : t.find? key.name with
  | none =>
    rw [hshows.branches_eq_nil hfind] at hbranches
    refine ⟨(), t.append key (.tables [⟨.header, [], span⟩]), ?_, rfl,
      hshows.append rfl hfind ?_⟩
    · dsimp only
      rw [TableOf.makeList, hfind]
      dsimp only [Option.bind_some]
      rw [push_of_tables (find?_append_self hfind), replace_append hfind]
      rfl
    · rw [hbranches]
      exact .tables (List.cons_ne_nil _ _)
        (.single (.element (List.forall_mem_nil _)) rfl TableShows.empty)
  | some node =>
    have hnode := hshows.of_find? hfind
    obtain ⟨bs, hbs⟩ : ∃ bs, branches key.name ss = bs := ⟨_, rfl⟩
    rw [hbs] at hnode hyields hbranches
    cases hnode with
    | value => exact absurd hyields not_yields_value
    | table hmade halone =>
      obtain ⟨how, es', rfl, hne, hall, -⟩ := hyields.of_made hmade halone
      exact absurd (hall.eq_element (List.mem_append_right _ List.mem_cons_self)) hne
    | @tables ts _ hne hts =>
      refine ⟨(), t.replace key.name (.tables (ts ++ [⟨.header, [], span⟩])), ?_, rfl,
        hshows.replace rfl hfind ?_⟩
      · dsimp only
        rw [TableOf.makeList, hfind]
        exact push_of_tables hfind _
      · rw [hbranches]
        exact .tables (List.append_ne_nil_of_left_ne_nil hne _) (hts.snoc rfl rfl)

end HexSigner.Toml
