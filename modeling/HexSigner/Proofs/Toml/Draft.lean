import HexSigner.Proofs.Toml.Insertion

/-!
# The current table of a document

While a document is read, the entries below a header are in a table of their own, which goes into
its place only when it is finished.  So the tables that were finished never show all that was said.
What a document shows at a moment is what it would be if it ended there (`Draft.Shows`).

An entry is added to the current table instead of to the whole document.  Putting that table into
its place and then adding the entry there would come to the same (`Draft.finish_of_update`), since
two changes at the end of a path are one change there (`update_bind`).
-/

set_option autoImplicit false

namespace HexSigner.Toml

open Document

/-! ## The current table -/

/-- The keys of the place of the current table. -/
def Place.keys : Place → List Key
  | .root => []
  | .value path key | .element path key => path ++ [key]

section Current

variable {change : Table → Option (Unit × Table)} {t cur : Table} {key : Key}

/-- A table that is put under a key may be changed before or after that. -/
theorem put_bind_update (hcur : cur.origin = .header) (t : Table) :
    ((TableOf.put key cur t).bind fun (_, u) ↦ TableOf.update false [key] change u) =
      (change cur).bind fun (_, cur) ↦ TableOf.put key cur t := by
  cases hfind : t.find? key.name with
  | none =>
    have hopen : IsOpen false cur.origin := by
      rw [hcur]
      decide
    simp only [put_of_none hfind, Option.bind_some,
      update_eq_of_table (find?_append_self hfind) hopen, replace_append hfind]
    show (change cur).map _ = _
    cases change cur <;> rfl
  | some node =>
    have hnone : ∀ cur, TableOf.put key cur t = none := by
      intro cur
      rw [TableOf.put, hfind]
      rfl
    simp only [hnone, Option.bind_none]
    cases change cur <;> rfl

/-- A table that is appended to a list may be changed before or after that. -/
theorem push_bind_update (t : Table) :
    ((TableOf.push key cur t).bind fun (_, u) ↦ TableOf.update false [key] change u) =
      (change cur).bind fun (_, cur) ↦ TableOf.push key cur t := by
  cases hfind : t.find? key.name with
  | none =>
    have hlast : (t.append key (.tables [cur])).find? key.name = some (.tables ([] ++ [cur])) :=
      find?_append_self hfind
    simp only [push_of_none hfind, Option.bind_some, update_eq_of_tables hlast,
      replace_append hfind]
    show (change cur).map _ = _
    cases change cur <;> rfl
  | some node =>
    cases node with
    | tables ts =>
      have hlast : (t.replace key.name (.tables (ts ++ [cur]))).find? key.name =
          some (.tables (ts ++ [cur])) := find?_replace_self hfind
      simp only [push_of_tables hfind, Option.bind_some, update_eq_of_tables hlast,
        replace_replace]
      show (change cur).map _ = _
      cases change cur <;> rfl
    | _ =>
      have hnone : ∀ cur, TableOf.push key cur t = none := by
        intro cur
        rw [TableOf.push, hfind]
      simp only [hnone, Option.bind_none]
      cases change cur <;> rfl

/-- If a table is stored at the end of a path, a change there may be made to the table itself. -/
theorem store_of_update {store : Table → Table → Option (Unit × Table)}
    (hkeeps : KeepsOrigin (store cur))
    (hstore : ∀ t, ((store cur t).bind fun (_, u) ↦ TableOf.update false [key] change u) =
      (change cur).bind fun (_, cur) ↦ store cur t)
    {path : List Key} {root done next : Table}
    (hdone : (TableOf.update false path (store cur) root).map (·.2) = some done)
    (h : TableOf.update false (path ++ [key]) change done = some ((), next)) :
    ∃ cur', change cur = some ((), cur') ∧
      (TableOf.update false path (store cur') root).map (·.2) = some next := by
  obtain ⟨⟨_, _⟩, hroot, rfl⟩ := Option.map_eq_some_iff.mp hdone
  have hbind := update_bind false path hkeeps (fun _ ↦ TableOf.update false [key] change) root
  rw [update_append] at h
  rw [hroot] at hbind
  simp only [hstore] at hbind
  have hnext := hbind.symm.trans h
  cases hcur : change cur with
  | none =>
    simp only [hcur, Option.bind_none, update_none] at hnext
    cases hnext
  | some pair =>
    simp only [hcur, Option.bind_some] at hnext
    exact ⟨pair.2, rfl, by rw [hnext]; rfl⟩

end Current

/-- **A change of the document at the place of the current table is a change of that table.** -/
theorem Draft.finish_of_update {d : Draft} {change : Table → Option (Unit × Table)}
    {done next : Table} (hdone : d.finish = some done) (horigin : d.current.origin = .header)
    (h : TableOf.update false d.place.keys change done = some ((), next)) :
    ∃ cur, change d.current = some ((), cur) ∧ { d with current := cur }.finish = some next := by
  obtain ⟨root, current, place⟩ := d
  cases place with
  | root =>
    cases hdone
    exact ⟨next, h, rfl⟩
  | value path key =>
    exact store_of_update (keepsOrigin_put key _) (put_bind_update horigin) hdone h
  | element path key =>
    exact store_of_update (keepsOrigin_push key _) push_bind_update hdone h

/-! ## What a document shows -/

/-- A document that is being read shows some statements, and goes on below a header. -/
structure Draft.Shows (d : Draft) (keys : List String) (ss : List Statement) : Prop where
  finish : ∃ t, d.finish = some t ∧ TableShows t.entries ss
  keys_eq : d.place.keys.map (·.name) = keys
  origin_eq : d.current.origin = .header

theorem Draft.shows_start : Draft.start.Shows [] [] :=
  ⟨⟨_, rfl, .empty⟩, rfl, rfl⟩

section Step

variable {d : Draft} {keys : List String} {ss rest : List Statement} {es : Entries}

/-- An entry is read. -/
theorem Draft.Shows.addEntry (h : d.Shows keys ss) {node : Node} {v : Tree}
    (hnode : NodeDenotes node v) (path : List Key) (key : Key) (stop : List Char)
    (hes : Tabulates (ss ++
      Statement.under keys ⟨keyPath (path.map (·.name) ++ [key.name]), .value v⟩ :: rest) es) :
    ∃ d', d.addEntry path key node stop = some d' ∧ d'.Shows keys
      (ss ++ [Statement.under keys ⟨keyPath (path.map (·.name) ++ [key.name]), .value v⟩]) := by
  obtain ⟨done, hdone, hshows⟩ := h.finish
  have hadds := Adds.insert hnode path key (Option.map fun span ↦ { span with stop })
  have hpath : keyPath (path.map (·.name) ++ [key.name]) ≠ [] :=
    keyPath_ne_nil (List.append_ne_nil_of_right_ne_nil _ (List.cons_ne_nil _ _))
  have hunder := hadds.update_headers hpath d.place.keys
  rw [h.keys_eq] at hunder
  obtain ⟨_, next, hnext, -, hshows'⟩ := hunder done ss rest es trivial hshows hes
  obtain ⟨cur, hcur, hfinish⟩ := Draft.finish_of_update hdone h.origin_eq hnext
  obtain ⟨t, ht, hpair⟩ := Option.map_eq_some_iff.mp hcur
  cases hpair
  refine ⟨_, ?_, ⟨next, hfinish, hshows'⟩, h.keys_eq, ?_⟩
  · rw [Draft.addEntry, ht]
    rfl
  · exact (origin_of_insert? ht).trans h.origin_eq

/-- A header does something along its path, and puts a table into its place then. -/
theorem Draft.Shows.start (h : d.Shows keys ss) {α : Type} {make : Table → Option (α × Table)}
    (hmake : KeepsOrigin make) (store : α → Table → Option (Unit × Table)) (path : List Key)
    {key : Key} {mark : Mark}
    (hadds : Adds (fun _ ↦ True) ⟨[(.header, key.name)], mark⟩ fun t ↦
      (make t).bind fun (a, u) ↦ store a u)
    (hes : Tabulates (ss ++ ⟨headerPath (path.map (·.name) ++ [key.name]), mark⟩ :: rest) es) :
    ∃ done a root next, d.finish = some done ∧
      TableOf.update false path make done = some (a, root) ∧
      TableOf.update false path (store a) root = some ((), next) ∧
      TableShows next.entries
        (ss ++ [⟨headerPath (path.map (·.name) ++ [key.name]), mark⟩]) := by
  obtain ⟨done, hdone, hshows⟩ := h.finish
  have hall := hadds.update_headers (List.cons_ne_nil _ _) path
  have hunder : Statement.under (path.map (·.name)) ⟨[(.header, key.name)], mark⟩ =
      ⟨headerPath (path.map (·.name) ++ [key.name]), mark⟩ := by
    rw [headerPath, List.map_append]
    rfl
  rw [hunder] at hall
  obtain ⟨_, next, hnext, -, hshows'⟩ := hall done ss rest es trivial hshows hes
  rw [← update_bind false path hmake store] at hnext
  obtain ⟨⟨a, root⟩, hroot, hstore⟩ := Option.bind_eq_some_iff.mp hnext
  exact ⟨done, a, root, next, hdone, hroot, hstore, hshows'⟩

/-- A header of a table is read. -/
theorem Draft.Shows.startTable (h : d.Shows keys ss) (path : List Key) (key : Key) (span : Span)
    (hes : Tabulates (ss ++ ⟨headerPath (path.map (·.name) ++ [key.name]), .header⟩ :: rest) es) :
    ∃ d', d.startTable path key span = some d' ∧
      d'.Shows (path.map (·.name) ++ [key.name])
        (ss ++ [⟨headerPath (path.map (·.name) ++ [key.name]), .header⟩]) := by
  obtain ⟨done, old, root, next, hdone, htake, hput, hshows⟩ :=
    h.start (keepsOrigin_take key) (fun old ↦ TableOf.put key ⟨.header, old, some span⟩) path
      (Adds.header key (some span) _) hes
  refine ⟨⟨root, ⟨.header, old, some span⟩, .value path key⟩, ?_, ⟨next, ?_, hshows⟩,
    List.map_append, rfl⟩
  · rw [Draft.startTable, hdone, Option.bind_eq_bind, Option.bind_some, htake]
    rfl
  · rw [Draft.finish]
    dsimp only
    rw [hput]
    rfl

/-- A header of another table of a list is read. -/
theorem Draft.Shows.startElement (h : d.Shows keys ss) (path : List Key) (key : Key) (span : Span)
    (hes : Tabulates (ss ++ ⟨headerPath (path.map (·.name) ++ [key.name]), .element⟩ :: rest) es) :
    ∃ d', d.startElement path key span = some d' ∧
      d'.Shows (path.map (·.name) ++ [key.name])
        (ss ++ [⟨headerPath (path.map (·.name) ++ [key.name]), .element⟩]) := by
  obtain ⟨done, _, root, next, hdone, hmake, hpush, hshows⟩ :=
    h.start (keepsOrigin_makeList key) (fun _ ↦ TableOf.push key ⟨.header, [], some span⟩) path
      (Adds.element key (some span) _) hes
  refine ⟨⟨root, ⟨.header, [], some span⟩, .element path key⟩, ?_, ⟨next, ?_, hshows⟩,
    List.map_append, rfl⟩
  · rw [Draft.startElement, hdone, Option.bind_eq_bind, Option.bind_some, hmake]
    rfl
  · rw [Draft.finish]
    dsimp only
    rw [hpush]
    rfl

end Step

end HexSigner.Toml
