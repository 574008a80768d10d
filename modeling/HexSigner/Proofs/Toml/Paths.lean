import HexSigner.Toml.Document
import Mathlib.Data.List.Basic
import Mathlib.Data.Option.Basic

/-!
# Changes along paths of keys

A change of a document is mostly a change of the table at the end of a path, `TableOf.update`.  What
becomes of it at the first key of the path depends on what the key stands for, and there is one
equation for each case (`update_eq_of_none`, `update_eq_of_table`, `update_eq_of_tables`).

All of them have one shape (`Leads`): some table is changed, and then put where it was, or where it
is from now on; and that can be done again.  So changes along paths obey the laws that a field of a
record obeys.  A path is followed key by key (`update_append`), and a change at the end of a path,
followed by another one there, is one change at the end of that path (`update_bind`).
-/

set_option autoImplicit false

namespace HexSigner.Toml

/-! ## Keys of tables -/

theorem find?_eq_none_iff {t : Table} {name : String} :
    t.find? name = none ↔ ∀ e ∈ t.entries, e.1.name ≠ name := by
  simp [TableOf.find?]

theorem mem_of_find? {t : Table} {name : String} {node : Node} (h : t.find? name = some node) :
    ∃ key, (key, node) ∈ t.entries ∧ key.name = name := by
  obtain ⟨⟨key, node'⟩, hfind, rfl⟩ := Option.map_eq_some_iff.mp h
  exact ⟨key, List.mem_of_find?_eq_some hfind, by simpa using List.find?_some hfind⟩

theorem find?_append_self {t : Table} {key : Key} {node : Node} (h : t.find? key.name = none) :
    (t.append key node).find? key.name = some node := by
  rw [TableOf.find?, Option.map_eq_none_iff] at h
  rw [TableOf.find?, TableOf.append, List.find?_append, h]
  simp

theorem find?_replace_self {t : Table} {name : String} {old node : Node}
    (h : t.find? name = some old) : (t.replace name node).find? name = some node := by
  obtain ⟨⟨key, node'⟩, hfind, rfl⟩ := Option.map_eq_some_iff.mp h
  have hkey : key.name = name := by simpa using List.find?_some hfind
  rw [TableOf.find?, TableOf.replace, List.find?_map, Option.map_map]
  -- What is found goes by the names, which stay as they are.
  refine (congrArg (Option.map _) hfind).trans ?_
  simp [hkey]

theorem find?_erase_self (t : Table) (name : String) : (t.erase name).find? name = none := by
  rw [find?_eq_none_iff]
  simp [TableOf.erase]

theorem replace_of_none {t : Table} {name : String} (h : t.find? name = none) (node : Node) :
    t.replace name node = t := by
  obtain ⟨origin, entries, span⟩ := t
  rw [TableOf.replace, TableOf.mk.injEq]
  refine ⟨rfl, (List.map_congr_left fun e he ↦ ?_).trans (List.map_id _), rfl⟩
  dsimp only
  rw [if_neg (find?_eq_none_iff.mp h e he)]
  rfl

theorem replace_append {t : Table} {key : Key} {old node : Node} (h : t.find? key.name = none) :
    (t.append key old).replace key.name node = t.append key node := by
  have happend : (t.append key old).replace key.name node =
      (t.replace key.name node).append key (if key.name = key.name then node else old) := by
    rw [TableOf.replace, TableOf.append, List.map_append]
    rfl
  rw [happend, replace_of_none h, if_pos rfl]

theorem replace_replace (t : Table) (name : String) (old node : Node) :
    (t.replace name old).replace name node = t.replace name node := by
  simp only [TableOf.replace, List.map_map, TableOf.mk.injEq, true_and, and_true]
  refine List.map_congr_left fun e _ ↦ ?_
  by_cases hname : e.1.name = name <;> simp [hname]

/-! ## The first key of a path -/

section Path

variable {α β : Type} {dotted : Bool}

/-- A key of a table leads to another table, which may be put back changed, any number of times. -/
structure Leads (dotted : Bool) (key : Key) (t child : Table) (restore : Table → Table) : Prop where
  origin_eq : ∀ u : Table, (restore u).origin = t.origin
  update_eq : ∀ {α : Type} (path : List Key) (change : Table → Option (α × Table)),
    TableOf.update dotted (key :: path) change t =
      (TableOf.update dotted path change child).map (Prod.map id restore)
  update_restore : ∀ {u : Table}, u.origin = child.origin →
    ∀ {α : Type} (path : List Key) (change : Table → Option (α × Table)),
      TableOf.update dotted (key :: path) change (restore u) =
        (TableOf.update dotted path change u).map (Prod.map id restore)

/-- A path of keys leads into a table that came about in this way. -/
def IsOpen (dotted : Bool) (origin : Origin) : Prop :=
  origin ≠ .inline ∧ (dotted → origin ≠ .header)

instance (dotted : Bool) (origin : Origin) : Decidable (IsOpen dotted origin) :=
  inferInstanceAs (Decidable (_ ∧ _))

theorem update_eq_of_none {key : Key} {t : Table} (hfind : t.find? key.name = none)
    (path : List Key) (change : Table → Option (α × Table)) :
    TableOf.update dotted (key :: path) change t =
      (TableOf.update dotted path change (.empty (if dotted then .dotted else .implicit))).map
        (Prod.map id fun u ↦ t.append key (.table u)) := by
  rw [TableOf.update, hfind]
  dsimp only
  cases TableOf.update dotted path change (.empty (if dotted then .dotted else .implicit)) <;> rfl

theorem update_eq_of_table {key : Key} {t child : Table}
    (hfind : t.find? key.name = some (.table child)) (hopen : IsOpen dotted child.origin)
    (path : List Key) (change : Table → Option (α × Table)) :
    TableOf.update dotted (key :: path) change t = (TableOf.update dotted path change child).map
      (Prod.map id fun u ↦ t.replace key.name (.table u)) := by
  rw [TableOf.update, hfind]
  dsimp only
  rw [guard, if_pos hopen.1, guard, if_pos hopen.2]
  cases TableOf.update dotted path change child <;> rfl

theorem update_eq_none_of_table {key : Key} {t child : Table}
    (hfind : t.find? key.name = some (.table child)) (hopen : ¬IsOpen dotted child.origin)
    (path : List Key) (change : Table → Option (α × Table)) :
    TableOf.update dotted (key :: path) change t = none := by
  rw [TableOf.update, hfind]
  dsimp only
  by_cases hinline : child.origin ≠ .inline
  · rw [guard, if_pos hinline, guard, if_neg fun hheader ↦ hopen ⟨hinline, hheader⟩]
    rfl
  · rw [guard, if_neg hinline]
    rfl

theorem update_eq_of_tables {key : Key} {t last : Table} {front : List Table}
    (hfind : t.find? key.name = some (.tables (front ++ [last]))) (path : List Key)
    (change : Table → Option (α × Table)) :
    TableOf.update dotted (key :: path) change t = (TableOf.update dotted path change last).map
      (Prod.map id fun u ↦ t.replace key.name (.tables (front ++ [u]))) := by
  rw [TableOf.update, hfind]
  dsimp only
  rw [List.getLast?_concat, List.dropLast_concat, Option.bind_eq_bind, Option.bind_some]
  cases TableOf.update dotted path change last <;> rfl

theorem leads_or_eq_none (dotted : Bool) (key : Key) (t : Table) :
    (∃ child restore, Leads dotted key t child restore) ∨
      ∀ {α : Type} (path : List Key) (change : Table → Option (α × Table)),
        TableOf.update dotted (key :: path) change t = none := by
  cases hfind : t.find? key.name with
  | none =>
    refine .inl ⟨.empty (if dotted then .dotted else .implicit),
      fun u ↦ t.append key (.table u), fun _ ↦ rfl, update_eq_of_none hfind, ?_⟩
    intro u hu α path change
    have hopen : IsOpen dotted u.origin := by
      rw [hu]
      cases dotted <;> decide
    rw [update_eq_of_table (find?_append_self hfind) hopen]
    simp only [replace_append hfind]
  | some node =>
    cases node with
    | table child =>
      by_cases hopen : IsOpen dotted child.origin
      · refine .inl ⟨child, fun u ↦ t.replace key.name (.table u), fun _ ↦ rfl,
          update_eq_of_table hfind hopen, ?_⟩
        intro u hu α path change
        rw [update_eq_of_table (find?_replace_self hfind) (hu ▸ hopen)]
        simp only [replace_replace]
      · exact .inr (update_eq_none_of_table hfind hopen)
    | tables ts =>
      obtain rfl | ⟨front, last, rfl⟩ := ts.eq_nil_or_concat'
      · refine .inr fun path change ↦ ?_
        rw [TableOf.update, hfind]
        rfl
      · refine .inl ⟨last, fun u ↦ t.replace key.name (.tables (front ++ [u])), fun _ ↦ rfl,
          update_eq_of_tables hfind, ?_⟩
        intro u _ α path change
        rw [update_eq_of_tables (find?_replace_self hfind)]
        simp only [replace_replace]
    | _ =>
      refine .inr fun path change ↦ ?_
      rw [TableOf.update, hfind]

/-! ## Whole paths -/

/-- A change leaves how a table came about as it is. -/
def KeepsOrigin (change : Table → Option (α × Table)) : Prop :=
  ∀ (t : Table) (a : α) (u : Table), change t = some (a, u) → u.origin = t.origin

theorem KeepsOrigin.update {change : Table → Option (α × Table)} (h : KeepsOrigin change)
    (dotted : Bool) (path : List Key) : KeepsOrigin (TableOf.update dotted path change) := by
  cases path with
  | nil => exact h
  | cons key path =>
    intro t a u hu
    obtain ⟨child, restore, hleads⟩ | hnone := leads_or_eq_none dotted key t
    · rw [hleads.update_eq] at hu
      obtain ⟨⟨_, u'⟩, -, hpair⟩ := Option.map_eq_some_iff.mp hu
      cases hpair
      exact hleads.origin_eq u'
    · cases (hnone path change).symm.trans hu

theorem update_append (path path' : List Key) (change : Table → Option (α × Table)) :
    TableOf.update dotted (path ++ path') change =
      TableOf.update dotted path (TableOf.update dotted path' change) := by
  induction path with
  | nil => rfl
  | cons key path ih =>
    funext t
    obtain ⟨child, restore, hleads⟩ | hnone := leads_or_eq_none dotted key t
    · rw [List.cons_append, hleads.update_eq, hleads.update_eq, ih]
    · rw [List.cons_append, hnone, hnone]

theorem update_none (path : List Key) (t : Table) :
    TableOf.update dotted path (fun _ ↦ (none : Option (α × Table))) t = none := by
  induction path generalizing t with
  | nil => rfl
  | cons key path ih =>
    obtain ⟨child, restore, hleads⟩ | hnone := leads_or_eq_none dotted key t
    · rw [hleads.update_eq, ih]
      rfl
    · exact hnone _ _

/-- **Two changes at the end of a path, one after the other, are one change.** -/
theorem update_bind (dotted : Bool) (path : List Key) {change : Table → Option (α × Table)}
    (hkeeps : KeepsOrigin change) (next : α → Table → Option (β × Table)) (t : Table) :
    ((TableOf.update dotted path change t).bind fun (a, u) ↦
      TableOf.update dotted path (next a) u) =
      TableOf.update dotted path (fun t ↦ (change t).bind fun (a, u) ↦ next a u) t := by
  induction path generalizing t with
  | nil => rfl
  | cons key path ih =>
    obtain ⟨child, restore, hleads⟩ | hnone := leads_or_eq_none dotted key t
    · rw [hleads.update_eq, hleads.update_eq, ← ih, Option.bind_map, Option.map_bind]
      refine Option.bind_congr fun (a, u) hu ↦ ?_
      exact hleads.update_restore (hkeeps.update dotted path child a u hu) path (next a)
    · rw [hnone, hnone]
      rfl

/-- An entry leaves how a table came about as it is. -/
theorem origin_of_insert? {path : List Key} {key : Key} {node : Node} {t u : Table}
    (h : t.insert? path key node = some u) : u.origin = t.origin := by
  obtain ⟨⟨_, _⟩, hupdate, rfl⟩ := Option.map_eq_some_iff.mp h
  refine KeepsOrigin.update (fun t a u hu ↦ ?_) true path t _ _ hupdate
  obtain ⟨-, -, hu⟩ := Option.bind_eq_some_iff.mp hu
  obtain ⟨-, -, hpair⟩ := Option.bind_eq_some_iff.mp hu
  cases hpair
  rfl

end Path

/-! ## What headers do to a table -/

theorem put_of_none {t : Table} {key : Key} (h : t.find? key.name = none) (table : Table) :
    TableOf.put key table t = some ((), t.append key (.table table)) := by
  rw [TableOf.put, h]
  rfl

theorem push_of_none {t : Table} {key : Key} (h : t.find? key.name = none) (table : Table) :
    TableOf.push key table t = some ((), t.append key (.tables [table])) := by
  rw [TableOf.push, h]

theorem push_of_tables {t : Table} {key : Key} {ts : List Table}
    (h : t.find? key.name = some (.tables ts)) (table : Table) :
    TableOf.push key table t = some ((), t.replace key.name (.tables (ts ++ [table]))) := by
  rw [TableOf.push, h]

theorem keepsOrigin_put (key : Key) (table : Table) : KeepsOrigin (TableOf.put key table) := by
  intro t a u h
  obtain ⟨-, -, hpair⟩ := Option.bind_eq_some_iff.mp h
  cases hpair
  rfl

theorem keepsOrigin_push (key : Key) (table : Table) : KeepsOrigin (TableOf.push key table) := by
  intro t a u h
  rw [TableOf.push] at h
  split at h <;> cases h <;> rfl

theorem keepsOrigin_take (key : Key) : KeepsOrigin (TableOf.take key) := by
  intro t a u h
  rw [TableOf.take] at h
  split at h
  · cases h
    rfl
  · obtain ⟨-, -, hpair⟩ := Option.bind_eq_some_iff.mp h
    cases hpair
    rfl
  · cases h

theorem keepsOrigin_makeList (key : Key) : KeepsOrigin (TableOf.makeList key) := by
  intro t a u h
  rw [TableOf.makeList] at h
  split at h <;> cases h <;> rfl

end HexSigner.Toml
