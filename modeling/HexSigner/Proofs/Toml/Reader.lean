import HexSigner.Proofs.Toml.Draft
import HexSigner.Proofs.Toml.Numbers

/-!
# Documents are read as the grammar says

A text that denotes a tree is read as a table that denotes the same tree (`read_eq`), and a value
within it is read as a node (`ValueForm.run_eq`).  This goes along the grammar; what the statements
of a table do to the table that is being read is known from `Adds` and `Draft.Shows`.

The reader has limits that the grammar does not have.  A tree must be nested less deep than the
limit, and its numbers must fit (`Readable`).  No more is needed, since a path of keys is never
longer than the tree is deep (`Tabulates.within`).
-/

set_option autoImplicit false

namespace HexSigner.Toml

open Document

/-! ## What values start with, and what follows after them -/

/-- What a value starts with. -/
def StartsValue (c : Char) : Prop :=
  c.isDigit = true ∨ c ∈ ['"', '\'', '+', '-', 't', 'f', '[', '\x7b']

instance (c : Char) : Decidable (StartsValue c) := inferInstanceAs (Decidable (_ ∨ _))

theorem StartsValue.isBlank_eq {c : Char} (h : StartsValue c) : isBlank c = false :=
  isBlank_eq_false h (by decide) (by decide)

theorem IsQuote.startsValue {c : Char} (h : IsQuote c) : StartsValue c := by
  obtain rfl | rfl := h <;> decide

theorem TextForm.head {cs s rest : List Char} (h : TextForm cs s rest) :
    ∃ c ds, cs = c :: ds ∧ IsQuote c := by
  cases h with
  | line hquote => exact ⟨_, _, rfl, hquote⟩
  | lines hquote => exact ⟨_, _, rfl, hquote⟩
  | linesBelow hquote => exact ⟨_, _, rfl, hquote⟩

theorem NumeralForm.head {cs rest : List Char} {n : Json.Numeral} (h : NumeralForm cs n rest) :
    ∃ c ds, cs = c :: ds ∧ StartsValue c := by
  obtain ⟨ds, es, fs, hsign, hwhole, -, -⟩ := h
  obtain ⟨negative, hnegative⟩ : ∃ negative, n.negative = negative := ⟨_, rfl⟩
  rw [hnegative] at hsign
  cases hsign with
  | absent =>
    obtain ⟨c, left, rfl, hc⟩ := hwhole.head
    exact ⟨c, left, rfl, .inl hc⟩
  | plus => exact ⟨_, _, rfl, by decide⟩
  | minus => exact ⟨_, _, rfl, by decide⟩

theorem ValueForm.head {cs rest : List Char} {t : Tree} (h : ValueForm cs t rest) :
    ∃ c ds, cs = c :: ds ∧ StartsValue c := by
  cases h with
  | text h =>
    obtain ⟨c, ds, rfl, hc⟩ := h.head
    exact ⟨c, ds, rfl, hc.startsValue⟩
  | integer h => exact h.head
  | real h => exact h.head
  | _ => exact ⟨_, _, rfl, by decide⟩

theorem ValueForm.skipBlank_eq {cs ds rest : List Char} {t : Tree} (hfront : Blanks cs ds)
    (h : ValueForm ds t rest) : skipBlank cs = ds := by
  obtain ⟨c, ds, rfl, hc⟩ := h.head
  exact hfront.skipBlank_cons hc.isBlank_eq

theorem ValueForm.skipFiller_eq {cs ds rest : List Char} {t : Tree} (hfront : Filler cs ds)
    (h : ValueForm ds t rest) : skipFiller cs = ds := by
  obtain ⟨c, ds, rfl, hc⟩ := h.head
  exact hfront.skipFiller_eq.trans (skipFiller_cons hc.isBlank_eq (ne_of_not hc (by decide))
    (ne_of_not hc (by decide)) (ne_of_not hc (by decide)) ds)

/-- What ends a value, other than blanks, comments and line breaks. -/
def Closes (c : Char) : Prop := c = ',' ∨ c = ']' ∨ c = '\x7d'

theorem Closes.skipFiller_eq {c : Char} {cs rest : List Char} (h : Filler cs (c :: rest))
    (hc : Closes c) : skipFiller cs = c :: rest := by
  refine h.skipFiller_eq.trans ?_
  obtain rfl | rfl | rfl := hc <;>
    exact skipFiller_cons (by decide) (by decide) (by decide) (by decide) rest

theorem stops_cons {c : Char} (hc : c ∈ [' ', '\t', '\n', '\r', '#', ',', ']', '\x7d'])
    (cs : List Char) : Stops (c :: cs) := by
  intro d hd
  cases hd
  exact hc

theorem IsBlank.stops {c : Char} (h : IsBlank c) (cs : List Char) : Stops (c :: cs) := by
  obtain rfl | rfl := h <;> exact stops_cons (by decide) cs

theorem Break.stops {cs rest : List Char} (h : Break cs rest) : Stops cs := by
  cases h with
  | feed => exact stops_cons (by decide) _
  | both => exact stops_cons (by decide) _

theorem Comment.stops {cs rest : List Char} (h : Comment cs rest) : Stops cs := by
  obtain ⟨body, rfl, -⟩ := h
  exact stops_cons (by decide) _

theorem Blanks.stops {cs rest : List Char} (h : Blanks cs rest) (hrest : Stops rest) :
    Stops cs := by
  obtain ⟨blanks, rfl, hblanks⟩ := h
  cases blanks with
  | nil => exact hrest
  | cons c blanks => exact (hblanks c List.mem_cons_self).stops _

theorem Filler.stops {cs rest : List Char} (h : Filler cs rest) (hrest : Stops rest) :
    Stops cs := by
  cases h with
  | refl => exact hrest
  | blank hc => exact hc.stops _
  | newline hbreak => exact hbreak.stops
  | comment hcomment => exact hcomment.stops

theorem EndOfLine.stops {cs rest : List Char} (h : EndOfLine cs rest) : Stops cs := by
  obtain ⟨ds, es, hblanks, hcomment, hbreak⟩ := h
  refine hblanks.stops ?_
  obtain rfl | hcomment := hcomment
  · obtain hbreak | ⟨rfl, -⟩ := hbreak
    · exact hbreak.stops
    · intro c hc
      cases hc
  · exact hcomment.stops

theorem Stops.noQuote {rest : List Char} (h : Stops rest) : NoQuote rest :=
  fun _ hc ↦ h.holds (p := (¬IsQuote ·)) hc (by decide)

/-! ## Scalars -/

theorem scalar?_ne_of_opening {c : Char} (hc : c = '[' ∨ c = '\x7b') (cs : List Char) :
    scalar? (c :: cs) = none := by
  obtain rfl | rfl := hc <;> rfl

/-- A scalar is a value, however deep values may be nested. -/
theorem value_run_of_scalar {cs rest : List Char} {s : Scalar} (h : scalar? cs = some (s, rest))
    (n : Nat) : (value n).run cs = some (.scalar s ⟨cs, rest⟩, rest) := by
  have hvalue : ∀ inner?, value? inner? cs = some (.scalar s ⟨cs, rest⟩, rest) := by
    intro inner?
    rw [value?.eq_def]
    split
    · rw [scalar?_ne_of_opening (.inl rfl)] at h
      cases h
    · rw [scalar?_ne_of_opening (.inr rfl)] at h
      cases h
    · rw [h]
      rfl
  cases n with
  | zero => exact hvalue _
  | succ n => exact hvalue _

theorem TextForm.scalar?_eq {cs s rest : List Char} (h : TextForm cs s rest) (hrest : Stops rest) :
    scalar? cs = some (.text (String.ofList s), rest) := by
  have htext := h.text?_eq hrest.noQuote
  obtain ⟨c, ds, rfl, hc⟩ := h.head
  have hquote : c = '"' ∨ c = '\'' := hc
  rw [scalar?]
  dsimp only
  rw [if_pos hquote, htext]
  rfl

/-! ## Lists -/

section Steps

variable {inner : Reader Node} {cs ds es rest : List Char} {t : Tree} {node : Node}
  {nodes : List Node}

theorem elements_done (h : Filler cs (']' :: rest)) : elements inner cs = some ([], rest) := by
  have hfiller := Closes.skipFiller_eq h (.inr (.inl rfl))
  rw [elements, hfiller]
  rfl

theorem ValueForm.word?_eq_none (h : ValueForm cs t rest) {c : Char} (hc : ¬StartsValue c) :
    word? [c] cs = none := by
  obtain ⟨d, ds, rfl, hd⟩ := h.head
  rw [word?, if_neg (ne_of_not hd hc)]

theorem elements_last (hfront : Filler cs ds) (h : ValueForm ds t es)
    (hrun : inner.run ds = some (node, es)) (hback : Filler es (']' :: rest)) :
    elements inner cs = some ([node], rest) := by
  have hds := h.skipFiller_eq hfront
  have hes := Closes.skipFiller_eq hback (.inr (.inl rfl))
  have hword := h.word?_eq_none (c := ']') (by decide)
  rw [elements]
  grind

theorem elements_cons {fs : List Char} (hfront : Filler cs ds) (h : ValueForm ds t es)
    (hrun : inner.run ds = some (node, es)) (hback : Filler es (',' :: fs))
    (hmore : elements inner fs = some (nodes, rest)) :
    elements inner cs = some (node :: nodes, rest) := by
  have hds := h.skipFiller_eq hfront
  have hes := Closes.skipFiller_eq hback (.inl rfl)
  have hword := h.word?_eq_none (c := ']') (by decide)
  rw [elements]
  grind

/-! ## Entries -/

theorem KeyForm.skipBlank {keys : List String} (h : KeyForm cs keys rest) :
    KeyForm (Toml.skipBlank cs) keys rest ∧ ∃ c ds, Toml.skipBlank cs = c :: ds ∧ StartsKey c := by
  cases h with
  | last hfront hkey hback =>
    rw [hkey.skipBlank_eq hfront]
    exact ⟨.last (.refl _) hkey hback, hkey.head⟩
  | dot hfront hkey hback hmore =>
    rw [hkey.skipBlank_eq hfront]
    exact ⟨.dot (.refl _) hkey hback hmore, hkey.head⟩

theorem EntryForm.skipBlank {s : Statement} (h : EntryForm cs s rest) :
    EntryForm (Toml.skipBlank cs) s rest ∧
      ∃ c ds, Toml.skipBlank cs = c :: ds ∧ StartsKey c := by
  cases h with
  | intro hkey hblanks hvalue =>
    obtain ⟨hkey, hhead⟩ := hkey.skipBlank
    exact ⟨.intro hkey hblanks hvalue, hhead⟩

theorem EntriesForm.skipBlank {ss : List Statement} (h : EntriesForm cs ss rest) :
    ∃ c ds, Toml.skipBlank cs = c :: ds ∧ StartsKey c := by
  cases h with
  | last h => exact h.skipBlank.2
  | cons h => exact h.skipBlank.2

theorem keyValue?_eq {fs : List Char} {path : List Key} {key : Key}
    (hkey : key? cs = some ((path, key), '=' :: ds)) (hblanks : Blanks ds es)
    (h : ValueForm es t fs) (hrun : inner.run es = some (node, fs)) :
    keyValue? inner cs = some ((path, key, node), fs) := by
  have hword : word? ['='] ('=' :: ds) = some ds := word?_append ['='] ds
  rw [keyValue?, hkey]
  simp only [Option.bind_eq_bind, Option.bind_some, hword, h.skipBlank_eq hblanks, hrun]
  rfl

theorem inlineEntries_last {t u : Table} {path : List Key} {key : Key}
    (hentry : keyValue? inner cs = some ((path, key, node), ds))
    (hinsert : t.insert? path key node = some u) (hback : Blanks ds ('\x7d' :: rest)) :
    inlineEntries inner t cs = some (u, rest) := by
  have hclosing := hback.skipBlank_cons (by decide)
  rw [inlineEntries]
  grind

theorem inlineEntries_cons {t u : Table} {path : List Key} {key : Key}
    (hentry : keyValue? inner cs = some ((path, key, node), ds))
    (hinsert : t.insert? path key node = some u) (hback : Blanks ds (',' :: rest)) :
    inlineEntries inner t cs = inlineEntries inner u rest := by
  have hcomma := hback.skipBlank_cons (by decide)
  rw [inlineEntries]
  grind

theorem inlineTable?_empty (h : Blanks cs ('\x7d' :: rest)) :
    inlineTable? inner cs = some (.empty .inline, rest) := by
  rw [inlineTable?, h.skipBlank_cons (by decide)]
  rfl

theorem EntriesForm.inlineTable?_eq {ss : List Statement} (h : EntriesForm cs ss rest) :
    inlineTable? inner cs = inlineEntries inner (.empty .inline) cs := by
  obtain ⟨c, ds, hds, hc⟩ := h.skipBlank
  have hclosing : word? ['\x7d'] (Toml.skipBlank cs) = none := by
    rw [hds, word?, if_neg (ne_of_not hc (by decide))]
  rw [inlineTable?, hclosing]

theorem value_run_list {n : Nat} (h : elements (value n) cs = some (nodes, rest)) :
    (value (n + 1)).run ('[' :: cs) = some (.list nodes ⟨'[' :: cs, rest⟩, rest) := by
  show value? (some (value n)) ('[' :: cs) = _
  rw [value?]
  simp only [Option.bind_eq_bind, Option.bind_some, h]
  rfl

theorem value_run_table {n : Nat} {t : Table} (h : inlineTable? (value n) cs = some (t, rest)) :
    (value (n + 1)).run ('\x7b' :: cs) =
      some (.table { t with span := some ⟨'\x7b' :: cs, rest⟩ }, rest) := by
  show value? (some (value n)) ('\x7b' :: cs) = _
  rw [value?]
  simp only [Option.bind_eq_bind, Option.bind_some, h]
  rfl

end Steps

/-! ## Values -/

/-- A tree that may stand where values are nested at most `n` deep. -/
structure Readable (n : Nat) (t : Tree) : Prop where
  depth_le : t.depth ≤ n
  range : t.Every Tree.InRange

theorem Readable.list {n : Nat} {items : List Tree} (h : Readable n (.list items)) :
    ∃ m, n = m + 1 ∧ ∀ t ∈ items, Readable m t := by
  obtain ⟨hdepth, -, hrange⟩ := h
  obtain ⟨m, rfl⟩ : ∃ m, n = m + 1 := ⟨n - 1, by rw [Tree.depth] at hdepth; omega⟩
  have hdepth := Tree.depthOfItems_le_iff.mp (Nat.le_of_succ_le_succ hdepth)
  exact ⟨m, rfl, fun t ht ↦ ⟨hdepth t ht, Tree.everyItem_iff.mp hrange t ht⟩⟩

theorem Readable.table {n : Nat} {es : Entries} (h : Readable n (.table es)) : ∃ m, n = m + 1 :=
  Nat.exists_eq_succ_of_ne_zero
    (Nat.ne_of_gt (Nat.lt_of_lt_of_le (Nat.succ_pos _) h.depth_le))

theorem length_keyPath (keys : List String) : (keyPath keys).length = keys.length := by
  induction keys with
  | nil => rfl
  | cons key keys ih =>
    cases keys with
    | nil => rfl
    | cons key' keys => rw [keyPath_cons _ (List.cons_ne_nil _ _), List.length_cons, ih]; rfl

/-- What an entry says may stand in a table that values are nested in at most `n` deep. -/
structure Statement.Readable (n : Nat) (s : Statement) : Prop where
  depth_le : s.path.length + s.mark.depth ≤ n + 1
  range : s.mark.Every Tree.InRange

theorem Statement.Readable.length_lt {n : Nat} {s : Statement} (h : s.Readable n)
    (hn : n + 1 < depthLimit) : s.path.length < depthLimit := by
  have := h.depth_le
  omega

theorem Statement.Within.readable {n : Nat} {s : Statement} {t : Tree} (h : s.Within t)
    (ht : Toml.Readable (n + 1) t) : s.Readable n where
  depth_le := h.depth_le.trans ht.depth_le
  range := h.every _ ht.range

/-- The value of an entry is nested less deep than the table of the entry. -/
theorem Statement.Readable.value {n : Nat} {keys : List String} {v : Tree} (hkeys : keys ≠ [])
    (h : Statement.Readable n ⟨keyPath keys, .value v⟩) : Toml.Readable n v where
  depth_le := by
    have hdepth : (keyPath keys).length + v.depth ≤ n + 1 := h.depth_le
    have hpos := List.length_pos_iff.mpr (keyPath_ne_nil hkeys)
    omega
  range := h.range

section Entry

variable {n : Nat} {cs rest : List Char} {s : Statement}

/-- An entry is read: its keys, and a node that denotes its value. -/
def ReadsEntry (n : Nat) (cs : List Char) (s : Statement) (rest : List Char) : Prop :=
  ∃ (path : List Key) (key : Key) (node : Node) (v : Tree),
    s = ⟨keyPath (path.map (·.name) ++ [key.name]), .value v⟩ ∧
      keyValue? (Toml.value n) cs = some ((path, key, node), rest) ∧ NodeDenotes node v

/-- An entry that was read is added to the table that it belongs to. -/
theorem ReadsEntry.exists_insert? (h : ReadsEntry n cs s rest) {t : Table}
    {front back : List Statement} {es : Entries} (hshows : TableShows t.entries front)
    (hes : Tabulates (front ++ s :: back) es) :
    ∃ path key node u, keyValue? (Toml.value n) cs = some ((path, key, node), rest) ∧
      t.insert? path key node = some u ∧ TableShows u.entries (front ++ [s]) := by
  obtain ⟨path, key, node, v, rfl, hread, hnode⟩ := h
  obtain ⟨_, u', hinsert, -, hshows⟩ :=
    Adds.insert hnode path key id t front back es trivial hshows hes
  obtain ⟨u, hu, hpair⟩ := Option.map_eq_some_iff.mp hinsert
  cases hpair
  exact ⟨path, key, node, u, hread, hu, hshows⟩

end Entry

mutual

/-- **A value is read.** -/
theorem ValueForm.run_eq : ∀ {cs rest : List Char} {t : Tree}, ValueForm cs t rest → ∀ {n : Nat},
    n < depthLimit → Readable n t → Stops rest →
    ∃ node, (value n).run cs = some (node, rest) ∧ NodeDenotes node t
  | _, _, _, .text h, n, _, _, hrest =>
    ⟨_, value_run_of_scalar (h.scalar?_eq hrest) n, .text _ _⟩
  | _, _, _, .integer h hn, n, _, ht, hrest =>
    ⟨_, value_run_of_scalar (h.scalar?_integer hn ht.range hrest) n, .integer _ _⟩
  | _, _, _, .based hbase h, n, _, ht, hrest =>
    ⟨_, value_run_of_scalar (h.scalar?_based hbase ht.range hrest) n, .integer _ _⟩
  | _, _, _, .real h hn, n, _, ht, hrest =>
    ⟨_, value_run_of_scalar (h.scalar?_real hn ht.range hrest) n, .real _ _ _⟩
  | _, _, _, .true, n, _, _, _ => ⟨_, value_run_of_scalar rfl n, .boolean true _⟩
  | _, _, _, .false, n, _, _, _ => ⟨_, value_run_of_scalar rfl n, .boolean false _⟩
  | _, _, _, .list h, n, hn, ht, _ => by
    obtain ⟨m, rfl, hitems⟩ := ht.list
    obtain ⟨nodes, helements, hdenotes⟩ := h.elements_eq (Nat.lt_of_succ_lt hn) hitems
    exact ⟨_, value_run_list helements, .list _ hdenotes⟩
  | _, _, _, .emptyTable h, n, _, ht, _ => by
    obtain ⟨m, rfl⟩ := ht.table
    exact ⟨_, value_run_table (inlineTable?_empty h), .table .nil .nil⟩
  | _, _, _, .table h hes, n, hn, ht, _ => by
    obtain ⟨m, rfl⟩ := ht.table
    obtain ⟨u, hentries, hshows⟩ := h.inlineEntries_eq hn ht (t := .empty .inline) .empty hes
    obtain ⟨es', hes', hperm⟩ := hshows.denotes hes
    exact ⟨_, value_run_table (h.inlineTable?_eq.trans hentries), .table hes' hperm⟩

/-- The items of a list are read. -/
theorem ItemsForm.elements_eq : ∀ {cs rest : List Char} {items : List Tree},
    ItemsForm cs items rest → ∀ {n : Nat}, n < depthLimit → (∀ t ∈ items, Readable n t) →
    ∃ nodes, elements (value n) cs = some (nodes, rest) ∧ List.Forall₂ NodeDenotes nodes items
  | _, _, _, .done h, n, _, _ => ⟨[], elements_done h, .nil⟩
  | _, _, _, .last hfront h hback, n, hn, hitems => by
    obtain ⟨node, hrun, hdenotes⟩ := h.run_eq hn (hitems _ List.mem_cons_self)
      (hback.stops (stops_cons (by decide) _))
    exact ⟨[node], elements_last hfront h hrun hback, .cons hdenotes .nil⟩
  | _, _, _, .cons hfront h hback hmore, n, hn, hitems => by
    obtain ⟨ht, hitems⟩ := List.forall_mem_cons.mp hitems
    obtain ⟨node, hrun, hdenotes⟩ := h.run_eq hn ht (hback.stops (stops_cons (by decide) _))
    obtain ⟨nodes, helements, hdenotesAll⟩ := hmore.elements_eq hn hitems
    exact ⟨node :: nodes, elements_cons hfront h hrun hback helements, .cons hdenotes hdenotesAll⟩

/-- An entry is read. -/
theorem EntryForm.keyValue?_eq : ∀ {cs rest : List Char} {s : Statement}, EntryForm cs s rest →
    ∀ {n : Nat}, n < depthLimit → s.Readable n → s.path.length < depthLimit → Stops rest →
    ReadsEntry n cs s rest
  | _, _, _, .intro hkey hblanks h, n, hn, hs, hlength, hrest => by
    obtain ⟨path, key, rfl, hread⟩ := hkey.key?_eq rfl (by decide) (length_keyPath _ ▸ hlength)
    obtain ⟨node, hrun, hdenotes⟩ := h.run_eq hn (hs.value hkey.ne_nil) hrest
    exact ⟨path, key, node, _, rfl, keyValue?_eq hread hblanks h hrun, hdenotes⟩

/-- The entries of an inline table are read, and added to those that it has. -/
theorem EntriesForm.inlineEntries_eq : ∀ {cs rest : List Char} {ss : List Statement},
    EntriesForm cs ss rest → ∀ {n : Nat}, n + 1 < depthLimit → ∀ {es : Entries},
    Readable (n + 1) (.table es) → ∀ {t : Table} {front : List Statement},
    TableShows t.entries front → Tabulates (front ++ ss) es →
    ∃ u, inlineEntries (value n) t cs = some (u, rest) ∧ TableShows u.entries (front ++ ss)
  | _, _, _, .last h hback, n, hn, es, hes, t, front, hshows, htable => by
    have hs := (htable.within (List.mem_append_right _ List.mem_cons_self)).readable hes
    obtain ⟨path, key, node, u, hread, hinsert, hshows⟩ := (h.keyValue?_eq (Nat.lt_of_succ_lt hn)
      hs (hs.length_lt hn) (hback.stops (stops_cons (by decide) _))).exists_insert? hshows htable
    exact ⟨u, inlineEntries_last hread hinsert hback, hshows⟩
  | _, _, _, .cons h hback hmore, n, hn, es, hes, t, front, hshows, htable => by
    have hs := (htable.within (List.mem_append_right _ List.mem_cons_self)).readable hes
    obtain ⟨path, key, node, u, hread, hinsert, hshows⟩ := (h.keyValue?_eq (Nat.lt_of_succ_lt hn)
      hs (hs.length_lt hn) (hback.stops (stops_cons (by decide) _))).exists_insert? hshows htable
    rw [List.append_cons] at htable ⊢
    obtain ⟨w, hentries, hshows⟩ := hmore.inlineEntries_eq hn hes hshows htable
    exact ⟨w, (inlineEntries_cons hread hinsert hback).trans hentries, hshows⟩

end

/-! ## Lines -/

section Lines

variable {d d' : Draft} {cs ds es rest : List Char} {path : List Key} {key : Key}

theorem readLines_nil (d : Draft) : readLines d [] = d.finish := by
  have hblank : skipBlank [] = [] := rfl
  rw [readLines]
  grind

theorem readLines_of_content {c : Char} (hblank : skipBlank cs = c :: ds)
    (hcontent : d.readContent (c :: ds) = some (d', es)) (hend : EndOfLine es rest) :
    readLines d cs = readLines d' rest := by
  have hend := hend.lineEnd_eq
  rw [readLines]
  grind

/-- What does not matter in a line is at its end. -/
theorem EndOfLine.skipBlank (h : EndOfLine cs rest) :
    Toml.skipBlank cs = [] ∧ rest = [] ∨
      ∃ c ds, Toml.skipBlank cs = c :: ds ∧ (c = '#' ∨ c = '\n' ∨ c = '\r') ∧
        EndOfLine (c :: ds) rest := by
  obtain ⟨ds, es, hblanks, hcomment, hbreak⟩ := h
  obtain rfl | hcomment := hcomment
  · obtain hbreak | ⟨rfl, rfl⟩ := hbreak
    · obtain ⟨c, left, rfl, hc⟩ := hbreak.head
      have hblank : isBlank c = false := by obtain rfl | rfl := hc <;> rfl
      exact .inr ⟨c, left, hblanks.skipBlank_cons hblank, .inr hc,
        c :: left, c :: left, .refl _, .inl rfl, .inl hbreak⟩
    · exact .inl ⟨hblanks.skipBlank_eq, rfl⟩
  · obtain ⟨body, rfl, hbody⟩ := hcomment
    exact .inr ⟨'#', _, hblanks.skipBlank_cons rfl, .inl rfl,
      _, es, .refl _, .inr ⟨body, rfl, hbody⟩, hbreak⟩

theorem EndOfLine.readLines_eq (h : EndOfLine cs rest) : readLines d cs = readLines d rest := by
  obtain ⟨hblank, rfl⟩ | ⟨c, ds, hblank, hc, hend⟩ := h.skipBlank
  · rw [readLines_nil, readLines]
    grind
  · have hbracket : c ≠ '[' := by
      obtain rfl | rfl | rfl := hc <;> decide
    refine readLines_of_content hblank ?_ hend
    rw [Draft.readContent, if_neg hbracket, if_pos hc]

theorem readContent_entry {node : Node} {c : Char} (hc : StartsKey c)
    (h : keyValue? (value (depthLimit - 1)) (c :: cs) = some ((path, key, node), rest))
    (hadd : d.addEntry path key node rest = some d') :
    d.readContent (c :: cs) = some (d', rest) := by
  have hend : ¬(c = '#' ∨ c = '\n' ∨ c = '\r') :=
    not_or.mpr ⟨ne_of_not hc (by decide),
      not_or.mpr ⟨ne_of_not hc (by decide), ne_of_not hc (by decide)⟩⟩
  rw [Draft.readContent, if_neg (ne_of_not hc (by decide)), if_neg hend, h]
  simp only [Option.bind_eq_bind, Option.bind_some, hadd]
  rfl

/-- A key has no bracket in front. -/
theorem KeyForm.word?_eq_none {keys : List String} (h : KeyForm cs keys rest) :
    word? ['[', '['] ('[' :: cs) = none := by
  cases cs with
  | nil => rfl
  | cons c cs =>
    obtain ⟨e, es, hblank, he⟩ := h.skipBlank.2
    have hc : c ≠ '[' := by
      rintro rfl
      rw [skipBlank_cons (by decide)] at hblank
      cases hblank
      exact absurd he (by decide)
    rw [word?, if_pos rfl, word?, if_neg hc]

theorem readContent_header {keys : List String} (h : KeyForm cs keys (']' :: rest))
    (hkey : key? cs = some ((path, key), ']' :: rest))
    (hstart : d.startTable path key ⟨'[' :: cs, rest⟩ = some d') :
    d.readContent ('[' :: cs) = some (d', rest) := by
  have hopening : word? ['['] ('[' :: cs) = some cs := word?_append ['['] cs
  have hclosing : word? [']'] (']' :: rest) = some rest := word?_append [']'] rest
  rw [Draft.readContent, if_pos rfl, Draft.readHeader, h.word?_eq_none]
  simp only [Option.bind_eq_bind, Option.bind_some, hopening, hkey, hclosing, hstart]
  rfl

theorem readContent_element (hkey : key? cs = some ((path, key), ']' :: ']' :: rest))
    (hstart : d.startElement path key ⟨'[' :: '[' :: cs, rest⟩ = some d') :
    d.readContent ('[' :: '[' :: cs) = some (d', rest) := by
  have hopening : word? ['[', '['] ('[' :: '[' :: cs) = some cs := word?_append ['[', '['] cs
  have hclosing : word? [']', ']'] (']' :: ']' :: rest) = some rest :=
    word?_append [']', ']'] rest
  rw [Draft.readContent, if_pos rfl, Draft.readHeader, hopening]
  simp only [Option.bind_eq_bind, Option.bind_some, hkey, hclosing, hstart]
  rfl

end Lines

/-! ## Documents -/

theorem Statement.length_under (s : Statement) (keys : List String) :
    (s.under keys).path.length = keys.length + s.path.length := by
  rw [Statement.under, List.length_append, headerPath, List.length_map]

/-- A header has fewer keys than the document is deep. -/
theorem Statement.Within.length_lt_of_header {keys : List String} {mark : Mark} {t : Tree} {n : Nat}
    (h : Statement.Within ⟨headerPath keys, mark⟩ t) (ht : t.depth < n) : keys.length < n := by
  have hdepth := h.depth_le
  rw [headerPath, List.length_map] at hdepth
  omega

/-- **Lines are read**, whatever the lines before them have said. -/
theorem LinesForm.readLines_eq {keys : List String} {cs : List Char} {ss : List Statement}
    (h : LinesForm keys cs ss) {d : Draft} {front : List Statement} {entries : Entries}
    (hd : d.Shows keys front) (hentries : Tabulates (front ++ ss) entries)
    (hdepth : (Tree.table entries).depth < depthLimit)
    (hrange : (Tree.table entries).Every Tree.InRange) :
    ∃ t, readLines d cs = some t ∧ TableShows t.entries (front ++ ss) := by
  induction h generalizing d front with
  | done =>
    obtain ⟨t, hfinish, hshows⟩ := hd.finish
    rw [List.append_nil]
    exact ⟨t, (readLines_nil d).trans hfinish, hshows⟩
  | empty hend _ ih =>
    rw [hend.readLines_eq]
    exact ih hd hentries
  | @entry keys _ ds _ s _ h hend _ ih =>
    have hwithin := hentries.within (List.mem_append_right _ List.mem_cons_self)
    have hlength := s.length_under keys
    have hs : s.path.length + s.mark.depth < depthLimit := by
      have : (s.under keys).path.length + s.mark.depth ≤ _ := hwithin.depth_le
      omega
    obtain ⟨hform, c, left, hblank, hc⟩ := h.skipBlank
    obtain ⟨path, key, node, v, rfl, hread, hnode⟩ := hform.keyValue?_eq (n := depthLimit - 1)
      (by decide) ⟨Nat.le_of_lt hs, hwithin.every _ hrange⟩ (Nat.lt_of_le_of_lt (by simp) hs)
      hend.stops
    obtain ⟨d', hadd, hd'⟩ := hd.addEntry hnode path key ds hentries
    rw [hblank] at hread
    rw [List.append_cons] at hentries ⊢
    rw [readLines_of_content hblank (readContent_entry hc hread hadd) hend]
    exact ih hd' hentries
  | @header _ new _ ds es _ _ hfront hkey hend _ ih =>
    have hlength := (hentries.within
      (List.mem_append_right _ List.mem_cons_self)).length_lt_of_header hdepth
    obtain ⟨path, key, rfl, hread⟩ := hkey.key?_eq rfl (by decide) hlength
    obtain ⟨d', hstart, hd'⟩ := hd.startTable path key ⟨'[' :: ds, es⟩ hentries
    rw [List.append_cons] at hentries ⊢
    rw [readLines_of_content (hfront.skipBlank_cons (by decide))
      (readContent_header hkey hread hstart) hend]
    exact ih hd' hentries
  | @element _ new _ ds es _ _ hfront hkey hend _ ih =>
    have hlength := (hentries.within
      (List.mem_append_right _ List.mem_cons_self)).length_lt_of_header hdepth
    obtain ⟨path, key, rfl, hread⟩ := hkey.key?_eq rfl (by decide) hlength
    obtain ⟨d', hstart, hd'⟩ := hd.startElement path key ⟨'[' :: '[' :: ds, es⟩ hentries
    rw [List.append_cons] at hentries ⊢
    rw [readLines_of_content (hfront.skipBlank_cons (by decide))
      (readContent_element hread hstart) hend]
    exact ih hd' hentries

/-- A mark of the encoding starts no line. -/
theorem LinesForm.dropMark_eq {keys : List String} {cs : List Char} {ss : List Statement}
    (h : LinesForm keys cs ss) : dropMark cs = cs := by
  have hne : ∀ ds, cs ≠ '\ufeff' :: ds := by
    rintro ds rfl
    have hblank : skipBlank ('\ufeff' :: ds) = '\ufeff' :: ds := skipBlank_cons (by decide) ds
    cases h with
    | empty hend => exact absurd (hend.stops _ rfl) (by decide)
    | entry h =>
      obtain ⟨c, left, hskip, hc⟩ := h.skipBlank.2
      cases hblank.symm.trans hskip
      exact absurd hc (by decide)
    | header hfront =>
      cases hblank.symm.trans (hfront.skipBlank_cons (by decide))
    | element hfront =>
      cases hblank.symm.trans (hfront.skipBlank_cons (by decide))
  rw [dropMark.eq_def]
  split
  · exact absurd rfl (hne _)
  · rfl

/-- **A text is read as what it denotes.** -/
theorem read_eq {text : String} {t : Tree} (h : Denotes text t) (hdepth : t.depth < depthLimit)
    (hrange : t.Every Tree.InRange) :
    ∃ table, read text = some table ∧ NodeDenotes (.table table) t := by
  obtain ⟨cs, ss, es, hmark, hlines, hes, rfl⟩ := h
  obtain ⟨table, hread, hshows⟩ := hlines.readLines_eq Draft.shows_start hes hdepth hrange
  obtain ⟨es', hes', hperm⟩ := hshows.denotes hes
  have hdrop : dropMark text.toList = cs := by
    obtain htext | htext := hmark
    · rw [htext, hlines.dropMark_eq]
    · rw [htext]
      rfl
  exact ⟨table, by rw [read, hdrop, hread], .table hes' hperm⟩

end HexSigner.Toml
