import HexSigner.Number.Shortest
import Mathlib.Data.List.Perm.Basic
import Mathlib.Data.List.Nodup

/-!
# What documents say

A document says the same in whatever format it is written: it is a tree of scalars, lists and
tables.  `Tree` is what two formats have in common, so it has neither the dates of the one nor the
`null` of the other, and a number is either an integer or a decimal.

What is expected of a part of a document is a `Kind`.  A kind knows the values of the trees that are
of that kind, and it *refuses* some of the others.  It need not refuse all that it has no value for:
a format may be generous and take more, and nothing is said about that.

* The kinds of scalars have values for some scalars and refuse all others, but not lists and tables.
* A record takes a table and puts the entries that it knows into a structure, one after the other
  (`overlay`).  What it does not know does not matter, and what is not there is left as it was.  It
  refuses a table with an entry that it knows and whose value is refused.

The order of the entries does not matter to a record whose fields keep out of each other's way
(`overlay_perm`), and each field has the value of its entry or, if there is none, the one that it
had (`overlay_field`).
-/

set_option autoImplicit false

namespace HexSigner

/-- The double nearest to a decimal or to its negative. -/
def Decimal.nearest (negative : Bool) (d : Decimal) : Binary64 :=
  .ofUnits negative (Binary64.ofDecimal d.digits d.exponent)

namespace Document

/-! ## Trees -/

/-- What a document says. -/
inductive Tree where
  | text (value : String)
  | integer (value : Int)
  | real (negative : Bool) (magnitude : Decimal)
  | boolean (value : Bool)
  | list (items : List Tree)
  | table (entries : List (String × Tree))

/-- The entries of a table, in the order in which they are written. -/
abbrev Entries : Type := List (String × Tree)

namespace Tree

/-- Whether a tree has no parts. -/
def isScalar : Tree → Bool
  | .list _ | .table _ => false
  | _ => true

/-- A tree is a table. -/
def IsTable (t : Tree) : Prop := ∃ es, t = .table es

/-- What is at the end of a path of keys. -/
def at? : List String → Tree → Option Tree
  | [], t => some t
  | key :: path, .table es => (es.lookup key).bind (at? path)
  | _ :: _, _ => none

/-- The value of what is at the end of a path of keys, or a default if nothing is there. -/
def valueAt {α : Type} (path : List String) (value? : Tree → Option α) (default : α) (t : Tree) :
    Option α :=
  match t.at? path with
  | none => some default
  | some u => value? u

/-- There is a scalar at the end of a path of keys, and it does not have a value. -/
def Misfits {α : Type} (path : List String) (value? : Tree → Option α) (t : Tree) : Prop :=
  ∃ u, t.at? path = some u ∧ u.isScalar = true ∧ value? u = none

theorem valueAt_cons {α : Type} {key : String} {path : List String} {value? : Tree → Option α}
    {default : α} {es : Entries} :
    (Tree.table es).valueAt (key :: path) value? default =
      match es.lookup key with
      | none => some default
      | some t => t.valueAt path value? default := by
  rw [valueAt, at?]
  cases es.lookup key with
  | none => rfl
  | some t => rfl

theorem at?_cons {key : String} {path : List String} {t u : Tree}
    (h : t.at? (key :: path) = some u) :
    ∃ es v, t = .table es ∧ es.lookup key = some v ∧ v.at? path = some u := by
  cases t with
  | table es =>
    obtain ⟨v, hv, hu⟩ := Option.bind_eq_some_iff.mp h
    exact ⟨es, v, rfl, hv, hu⟩
  | _ => cases h

mutual

/-- How deep lists and tables are nested. -/
def depth : Tree → Nat
  | .list items => depthOfItems items + 1
  | .table es => depthOfEntries es + 1
  | _ => 0

/-- How deep lists and tables are nested in the items of a list. -/
def depthOfItems : List Tree → Nat
  | [] => 0
  | t :: items => max t.depth (depthOfItems items)

/-- How deep lists and tables are nested in the entries of a table. -/
def depthOfEntries : Entries → Nat
  | [] => 0
  | (_, t) :: es => max t.depth (depthOfEntries es)

end

mutual

/-- A property of a tree and all its parts. -/
def Every (p : Tree → Prop) : Tree → Prop
  | .list items => p (.list items) ∧ EveryItem p items
  | .table es => p (.table es) ∧ EveryEntry p es
  | t => p t

/-- A property of the items of a list and all their parts. -/
def EveryItem (p : Tree → Prop) : List Tree → Prop
  | [] => True
  | t :: items => t.Every p ∧ EveryItem p items

/-- A property of the values of a table and all their parts. -/
def EveryEntry (p : Tree → Prop) : Entries → Prop
  | [] => True
  | (_, t) :: es => t.Every p ∧ EveryEntry p es

end

theorem everyEntry_iff {p : Tree → Prop} {es : Entries} :
    EveryEntry p es ↔ ∀ e ∈ es, e.2.Every p := by
  induction es with
  | nil => simp [EveryEntry]
  | cons e es ih => rw [EveryEntry, ih, List.forall_mem_cons]

theorem everyItem_iff {p : Tree → Prop} {items : List Tree} :
    EveryItem p items ↔ ∀ t ∈ items, t.Every p := by
  induction items with
  | nil => simp [EveryItem]
  | cons t items ih => rw [EveryItem, ih, List.forall_mem_cons]

theorem depthOfItems_le_iff {n : Nat} {items : List Tree} :
    depthOfItems items ≤ n ↔ ∀ t ∈ items, t.depth ≤ n := by
  induction items with
  | nil => simp [depthOfItems]
  | cons t items ih => rw [depthOfItems, Nat.max_le, ih, List.forall_mem_cons]

theorem depthOfEntries_le_iff {n : Nat} {es : Entries} :
    depthOfEntries es ≤ n ↔ ∀ e ∈ es, e.2.depth ≤ n := by
  induction es with
  | nil => simp [depthOfEntries]
  | cons e es ih => rw [depthOfEntries, Nat.max_le, ih, List.forall_mem_cons]

theorem Every.lookup {p : Tree → Prop} {es : Entries} (h : (table es).Every p) {key : String}
    {t : Tree} (ht : es.lookup key = some t) : t.Every p := by
  obtain ⟨front, back, rfl, -⟩ := List.lookup_eq_some_iff.mp ht
  exact everyEntry_iff.mp h.2 _ (List.mem_append_right _ List.mem_cons_self)

theorem Every.self {p : Tree → Prop} {t : Tree} (h : t.Every p) : p t := by
  cases t with
  | list items => exact h.1
  | table es => exact h.1
  | _ => exact h

/-- The keys of a table are distinct. -/
def DistinctKeys : Tree → Prop
  | .table es => (es.map (·.1)).Nodup
  | _ => True

/-- A scalar is small enough for every format: integers have 64 bits, and reals a nearest double. -/
def InRange : Tree → Prop
  | .integer i => -Int.pow 2 63 ≤ i ∧ i < Int.pow 2 63
  | .real _ d => Binary64.ofDecimal d.digits d.exponent < Binary64.overflow
  | _ => True

/-- The text of a tree that is a text. -/
def text? : Tree → Option String
  | .text s => some s
  | _ => none

/-- The truth value of a tree that is a truth value. -/
def boolean? : Tree → Option Bool
  | .boolean b => some b
  | _ => none

/-- The choice that a tree names. -/
def choice? {α : Type} (known : List (String × α)) (t : Tree) : Option α :=
  t.text?.bind fun name ↦ known.lookup name

end Tree

/-! ## Kinds -/

/-- What is expected of a tree. -/
structure Kind (α : Type) where
  /-- The value of a tree of the kind. -/
  value? : Tree → Option α
  /-- What is refused in every format. -/
  refuses : Tree → Prop
  /-- The trees that the kind is asked about. -/
  fits : Tree → Prop

/-- A kind whose trees are scalars. -/
def Kind.scalar {α : Type} (value? : Tree → Option α) : Kind α where
  value? := value?
  refuses t := t.isScalar = true ∧ value? t = none
  fits _ := True

/-- A place in a structure for the value of an entry. -/
structure Slot (ρ : Type) where
  name : String
  /-- Puts a value into the structure. -/
  put? : ρ → Tree → Option ρ
  refuses : Tree → Prop
  fits : Tree → Prop

/-- The slot with a name, a kind, and a way to put a value into the structure. -/
def Slot.of {ρ α : Type} (name : String) (kind : Kind α) (put : ρ → α → ρ) : Slot ρ where
  name := name
  put? r t := (kind.value? t).map (put r)
  refuses := kind.refuses
  fits := kind.fits

section Record

variable {ρ : Type} (slots : List (Slot ρ))

/-- The slot that an entry is for. -/
def slotOf? (key : String) : Option (Slot ρ) := slots.find? (·.name = key)

/-- Puts an entry into a structure, if there is a slot for it. -/
def step (r : ρ) (e : String × Tree) : Option ρ :=
  match slotOf? slots e.1 with
  | none => some r
  | some p => p.put? r e.2

/-- Puts entries into a structure, one after the other. -/
def overlay : ρ → Entries → Option ρ
  | r, [] => some r
  | r, e :: es => (step slots r e).bind (overlay · es)

/-- There is a slot for an entry, and it refuses the entry. -/
def Refused (e : String × Tree) : Prop := ∃ p, slotOf? slots e.1 = some p ∧ p.refuses e.2

/-- The slots may be asked about the entries that they are for. -/
def FitEntries (es : Entries) : Prop := ∀ e ∈ es, ∀ p, slotOf? slots e.1 = some p → p.fits e.2

/-- The kind of tables whose entries are put into a structure. -/
def Kind.record (r : ρ) : Kind ρ where
  value?
    | .table es => overlay slots r es
    | _ => none
  refuses
    | .table es => ∃ e ∈ es, Refused slots e
    | _ => False
  fits
    | .table es => (es.map (·.1)).Nodup ∧ FitEntries slots es
    | _ => False

variable {slots}

theorem name_of_slotOf? {key : String} {p : Slot ρ} (h : slotOf? slots key = some p) :
    p.name = key := by
  simpa using List.find?_some h

theorem mem_of_slotOf? {key : String} {p : Slot ρ} (h : slotOf? slots key = some p) : p ∈ slots :=
  List.mem_of_find?_eq_some h

/-- Where the fields of a format go with the slots one by one, a key is for a field that goes with
its slot. -/
theorem find?_of_forall₂ {φ : Type} {name : φ → String} {goesWith : φ → Slot ρ → Prop}
    {fields : List φ} (h : List.Forall₂ goesWith fields slots)
    (hname : ∀ {f p}, goesWith f p → name f = p.name) (key : String) :
    match slotOf? slots key with
    | none => fields.find? (name · = key) = none
    | some p => ∃ f, fields.find? (name · = key) = some f ∧ goesWith f p := by
  induction h with
  | nil => rfl
  | @cons f p fields slots hfield _ ih =>
    rw [slotOf?, List.find?_cons, List.find?_cons, hname hfield]
    by_cases heq : p.name = key
    · simp only [heq, decide_true]
      exact ⟨f, rfl, hfield⟩
    · simp only [heq, decide_false]
      exact ih

theorem mem_of_lookup {es : Entries} {key : String} {t : Tree} (h : es.lookup key = some t) :
    (key, t) ∈ es := by
  obtain ⟨front, back, rfl, -⟩ := List.lookup_eq_some_iff.mp h
  exact List.mem_append_right _ List.mem_cons_self

theorem lookup_of_mem {es : Entries} (hkeys : (es.map (·.1)).Nodup) {e : String × Tree}
    (he : e ∈ es) : es.lookup e.1 = some e.2 := by
  induction es with
  | nil => cases he
  | cons e' es ih =>
    rw [List.map_cons, List.nodup_cons] at hkeys
    obtain rfl | he := List.mem_cons.mp he
    · exact List.lookup_cons_self
    · have hne : (e.1 == e'.1) = false :=
        beq_false_of_ne fun heq ↦ hkeys.1 (heq ▸ List.mem_map_of_mem he)
      rw [List.lookup_cons, hne]
      exact ih hkeys.2 he

theorem Kind.fits_record {es : Entries} (hkeys : (es.map (·.1)).Nodup)
    (h : ∀ p ∈ slots, ∀ t, es.lookup p.name = some t → p.fits t) (r : ρ) :
    (Kind.record slots r).fits (.table es) := by
  refine ⟨hkeys, fun e he p hp ↦ h p (mem_of_slotOf? hp) e.2 ?_⟩
  rw [name_of_slotOf? hp]
  exact lookup_of_mem hkeys he

/-- A slot takes a tree that has a value. -/
theorem Slot.put?_of_valueAt {α : Type} {name : String} {k : Kind α} {put : ρ → α → ρ}
    {es : Entries} {default a : α} (h : (Tree.table es).valueAt [name] k.value? default = some a)
    (t : Tree) (ht : es.lookup name = some t) (r : ρ) :
    ∃ s, (Slot.of name k put).put? r t = some s := by
  rw [Tree.valueAt_cons, ht] at h
  have ha : k.value? t = some a := h
  exact ⟨put r a, Option.map_eq_some_iff.mpr ⟨a, ha, rfl⟩⟩

/-- Entries can be put into a structure if each of them can. -/
theorem exists_overlay {es : Entries} (hkeys : (es.map (·.1)).Nodup)
    (h : ∀ p ∈ slots, ∀ t, es.lookup p.name = some t → ∀ r, ∃ s, p.put? r t = some s) (r : ρ) :
    ∃ s, overlay slots r es = some s := by
  have hsteps : ∀ e ∈ es, ∀ r, ∃ s, step slots r e = some s := by
    intro e he r
    rw [step]
    cases hp : slotOf? slots e.1 with
    | none => exact ⟨r, rfl⟩
    | some p =>
      refine h p (mem_of_slotOf? hp) e.2 ?_ r
      rw [name_of_slotOf? hp]
      exact lookup_of_mem hkeys he
  clear h hkeys
  induction es generalizing r with
  | nil => exact ⟨r, rfl⟩
  | cons e es ih =>
    rw [List.forall_mem_cons] at hsteps
    obtain ⟨r', hstep⟩ := hsteps.1 r
    rw [overlay, hstep]
    exact ih r' hsteps.2

/-! ### Refusals -/

/-- A table is refused if it has an entry that is refused. -/
theorem Kind.refuses_record {key : String} {p : Slot ρ} (hp : slotOf? slots key = some p)
    {es : Entries} {t : Tree} (ht : es.lookup key = some t) (hrefuses : p.refuses t) (r : ρ) :
    (Kind.record slots r).refuses (.table es) :=
  ⟨_, mem_of_lookup ht, p, hp, hrefuses⟩

/-- A kind has no value for what it refuses. -/
def Kind.Sound {α : Type} (k : Kind α) : Prop := ∀ t, k.refuses t → k.value? t = none

/-- A slot takes nothing that it refuses. -/
def Slot.Sound (p : Slot ρ) : Prop := ∀ t, p.refuses t → ∀ r, p.put? r t = none

theorem Kind.sound_scalar {α : Type} (value? : Tree → Option α) : (Kind.scalar value?).Sound :=
  fun _ h ↦ h.2

theorem Slot.sound_of {α : Type} {name : String} {k : Kind α} {put : ρ → α → ρ} (h : k.Sound) :
    (Slot.of name k put).Sound := by
  intro t ht r
  simp only [Slot.of, h t ht, Option.map_none]

theorem overlay_of_refused (h : ∀ p ∈ slots, p.Sound) {es : Entries} {e : String × Tree}
    (he : e ∈ es) (hrefused : Refused slots e) (r : ρ) : overlay slots r es = none := by
  induction es generalizing r with
  | nil => cases he
  | cons e' es ih =>
    rw [overlay]
    obtain rfl | he := List.mem_cons.mp he
    · obtain ⟨p, hp, hrefuses⟩ := hrefused
      rw [step, hp]
      dsimp only
      rw [h p (mem_of_slotOf? hp) _ hrefuses, Option.bind_none]
    · exact Option.bind_eq_none_iff.mpr fun r' _ ↦ ih he r'

theorem Kind.sound_record (h : ∀ p ∈ slots, p.Sound) (r : ρ) : (Kind.record slots r).Sound := by
  intro t ht
  cases t with
  | table es =>
    obtain ⟨e, he, hrefused⟩ := ht
    exact overlay_of_refused h he hrefused r
  | _ => cases ht

/-! ### Order -/

/-- The slots of a structure keep out of each other's way. -/
def Apart (slots : List (Slot ρ)) : Prop :=
  ∀ p ∈ slots, ∀ q ∈ slots, p.name ≠ q.name → ∀ r t u,
    (p.put? r t).bind (q.put? · u) = (q.put? r u).bind (p.put? · t)

theorem step_comm (h : Apart slots) {e e' : String × Tree} (hkey : e.1 ≠ e'.1) (r : ρ) :
    (step slots r e).bind (step slots · e') = (step slots r e').bind (step slots · e) := by
  unfold step
  cases hp : slotOf? slots e.1 with
  | none => cases slotOf? slots e'.1 <;> simp
  | some p =>
    cases hq : slotOf? slots e'.1 with
    | none => simp
    | some q =>
      have hname : p.name ≠ q.name := by rwa [name_of_slotOf? hp, name_of_slotOf? hq]
      exact h p (mem_of_slotOf? hp) q (mem_of_slotOf? hq) hname r e.2 e'.2

/-- **The order of the entries does not matter.** -/
theorem overlay_perm (h : Apart slots) {es es' : Entries} (hperm : es.Perm es')
    (hkeys : (es.map (·.1)).Nodup) (r : ρ) : overlay slots r es = overlay slots r es' := by
  induction hperm generalizing r with
  | nil => rfl
  | cons e _ ih =>
    rw [List.map_cons, List.nodup_cons] at hkeys
    simp only [overlay, ih hkeys.2]
  | swap e e' es =>
    have hkey : e'.1 ≠ e.1 := by
      rw [List.map_cons, List.map_cons, List.nodup_cons] at hkeys
      exact fun heq ↦ hkeys.1 (heq ▸ List.mem_cons_self)
    simp only [overlay]
    rw [← Option.bind_assoc, ← Option.bind_assoc, step_comm h hkey]
  | trans hperm _ ih ih' =>
    rw [ih hkeys, ih' ((hperm.map _).nodup_iff.mp hkeys)]

/-! ### Fields -/

/-- A field of a structure that only the slot with its name has a say in. -/
structure Governs (slots : List (Slot ρ)) {β : Type} (name : String) (get : ρ → β)
    (value? : Tree → Option β) : Prop where
  self : ∀ p ∈ slots, p.name = name → ∀ r t r', p.put? r t = some r' → some (get r') = value? t
  other : ∀ p ∈ slots, p.name ≠ name → ∀ r t r', p.put? r t = some r' → get r' = get r
  known : ∃ p ∈ slots, p.name = name

/-- **A field has the value of its entry**, or the one that it had if there is no entry. -/
theorem overlay_field {β : Type} {name : String} {get : ρ → β} {value? : Tree → Option β}
    (h : Governs slots name get value?) {es : Entries} (hkeys : (es.map (·.1)).Nodup) {r s : ρ}
    (hoverlay : overlay slots r es = some s) :
    (Tree.table es).valueAt [name] value? (get r) = some (get s) := by
  induction es generalizing r with
  | nil =>
    cases hoverlay
    rfl
  | cons e es ih =>
    rw [List.map_cons, List.nodup_cons] at hkeys
    obtain ⟨r', hstep, hrest⟩ := Option.bind_eq_some_iff.mp hoverlay
    have ih := ih hkeys.2 hrest
    rw [Tree.valueAt_cons] at ih ⊢
    obtain ⟨key, t⟩ := e
    rw [List.lookup_cons]
    cases hkey : name == key with
    | true =>
      obtain rfl := eq_of_beq hkey
      have hnone : es.lookup name = none := List.lookup_eq_none_iff.mpr fun e he ↦ by
        rw [bne_iff_ne]
        exact fun heq ↦ hkeys.1 (List.mem_map.mpr ⟨e, he, heq.symm⟩)
      rw [hnone] at ih
      obtain ⟨p, hp⟩ : ∃ p, slotOf? slots name = some p := by
        obtain ⟨p, hp, hname⟩ := h.known
        exact Option.isSome_iff_exists.mp (List.find?_isSome.mpr ⟨p, hp, by simpa using hname⟩)
      rw [step, hp] at hstep
      exact (h.self p (mem_of_slotOf? hp) (name_of_slotOf? hp) r t r' hstep).symm.trans ih
    | false =>
      have hget : get r' = get r := by
        rw [step] at hstep
        split at hstep
        · rw [Option.some.inj hstep]
        · next p hp =>
          refine h.other p (mem_of_slotOf? hp) (fun hname ↦ ?_) r t r' hstep
          rw [name_of_slotOf? hp] at hname
          exact ne_of_beq_false hkey hname.symm
      rw [hget] at ih
      exact ih

/-! ### Structures of two fields -/

/-- A structure consists of two fields. -/
structure Pairs {α β : Type} (get : ρ → α) (put : ρ → α → ρ) (get' : ρ → β) (put' : ρ → β → ρ) :
    Prop where
  get_put : ∀ r a, get (put r a) = a
  get_put' : ∀ r b, get (put' r b) = get r
  get'_put : ∀ r a, get' (put r a) = get' r
  get'_put' : ∀ r b, get' (put' r b) = b
  ext : ∀ r s, get r = get s → get' r = get' s → r = s

theorem Governs.of_mem {slots' : List (Slot ρ)} {β : Type} {name : String} {get : ρ → β}
    {value? : Tree → Option β} (h : Governs slots name get value?)
    (hmem : ∀ p, p ∈ slots' ↔ p ∈ slots) : Governs slots' name get value? where
  self p hp := h.self p ((hmem p).mp hp)
  other p hp := h.other p ((hmem p).mp hp)
  known := by
    obtain ⟨p, hp, hname⟩ := h.known
    exact ⟨p, (hmem p).mpr hp, hname⟩

namespace Pairs

variable {α β : Type} {get : ρ → α} {put : ρ → α → ρ} {get' : ρ → β} {put' : ρ → β → ρ}
  (h : Pairs get put get' put') (name name' : String) (k : Kind α) (k' : Kind β)
include h

theorem apart : Apart [.of name k put, .of name' k' put'] := by
  have hcomm : ∀ r a b, put' (put r a) b = put (put' r b) a := fun r a b ↦
    h.ext _ _ (by rw [h.get_put', h.get_put, h.get_put])
      (by rw [h.get'_put', h.get'_put, h.get'_put'])
  have hput : ∀ r t u, ((k.value? t).map (put r)).bind (fun s ↦ (k'.value? u).map (put' s)) =
      ((k'.value? u).map (put' r)).bind fun s ↦ (k.value? t).map (put s) := by
    intro r t u
    cases k.value? t <;> cases k'.value? u <;> simp [hcomm]
  simp only [Apart, List.forall_mem_cons, List.not_mem_nil, false_implies, implies_true, and_true]
  exact ⟨⟨fun hne ↦ absurd rfl hne, fun _ ↦ hput⟩,
    fun _ r t u ↦ (hput r u t).symm, fun hne ↦ absurd rfl hne⟩

omit k k' in
theorem symm : Pairs get' put' get put :=
  ⟨h.get'_put', h.get'_put, h.get_put', h.get_put, fun r s heq heq' ↦ h.ext r s heq' heq⟩

variable {name name'} (hne : name ≠ name')
include hne

theorem governs : Governs [.of name k put, .of name' k' put'] name get k.value? := by
  constructor
  · simp only [List.forall_mem_cons]
    refine ⟨fun _ r t r' hput ↦ ?_, fun hname ↦ absurd hname.symm hne, nofun⟩
    obtain ⟨a, ha, rfl⟩ := Option.map_eq_some_iff.mp hput
    rw [h.get_put, ha]
  · simp only [List.forall_mem_cons]
    refine ⟨fun hname ↦ absurd rfl hname, fun _ r t r' hput ↦ ?_, nofun⟩
    obtain ⟨b, -, rfl⟩ := Option.map_eq_some_iff.mp hput
    exact h.get_put' r b
  · exact ⟨_, List.mem_cons_self, rfl⟩

/-- **A structure has the values of two entries**, or what it had for those that are not there. -/
theorem value?_record {es : Entries} (hkeys : (es.map (·.1)).Nodup) {r : ρ} {a : α} {b : β}
    (ha : (Tree.table es).valueAt [name] k.value? (get r) = some a)
    (hb : (Tree.table es).valueAt [name'] k'.value? (get' r) = some b) :
    (Kind.record [.of name k put, .of name' k' put'] r).value? (.table es) =
      some (put' (put r a) b) := by
  have hgoverns' : Governs [.of name k put, .of name' k' put'] name' get' k'.value? :=
    (h.symm.governs k' k hne.symm).of_mem fun p ↦ by
      simp only [List.mem_cons, List.not_mem_nil, or_false]
      exact or_comm
  obtain ⟨s, hs⟩ : ∃ s, overlay [.of name k put, .of name' k' put'] r es = some s := by
    refine exists_overlay hkeys ?_ r
    simp only [List.forall_mem_cons]
    exact ⟨Slot.put?_of_valueAt ha, Slot.put?_of_valueAt hb, nofun⟩
  have hget := ha.symm.trans (overlay_field (h.governs k k' hne) hkeys hs)
  have hget' := hb.symm.trans (overlay_field hgoverns' hkeys hs)
  refine hs.trans (congrArg some (h.ext _ _ ?_ ?_))
  · rw [h.get_put', h.get_put, Option.some.inj hget]
  · rw [h.get'_put', Option.some.inj hget']

/-- A group of two fields has the values of two entries of its table. -/
theorem valueAt_record {es : Entries} {key : String} {r : ρ} {a : α} {b : β}
    (hgroup : ∀ t, es.lookup key = some t → t.IsTable ∧ t.DistinctKeys)
    (ha : (Tree.table es).valueAt [key, name] k.value? (get r) = some a)
    (hb : (Tree.table es).valueAt [key, name'] k'.value? (get' r) = some b) :
    (Tree.table es).valueAt [key] (Kind.record [.of name k put, .of name' k' put'] r).value? r =
      some (put' (put r a) b) := by
  rw [Tree.valueAt_cons] at ha hb ⊢
  cases ht : es.lookup key with
  | none =>
    rw [ht] at ha hb
    cases ha
    cases hb
    refine congrArg some (h.ext _ _ ?_ ?_)
    · rw [h.get_put', h.get_put]
    · rw [h.get'_put']
  | some t =>
    rw [ht] at ha hb
    obtain ⟨⟨gs, rfl⟩, hkeys⟩ := hgroup t ht
    exact h.value?_record k k' hne hkeys ha hb

end Pairs

end Record

end Document

end HexSigner
