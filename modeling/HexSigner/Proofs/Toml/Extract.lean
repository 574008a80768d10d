import HexSigner.Proofs.Document.Tree
import HexSigner.Toml.Extract

/-!
# What is taken from TOML documents

A document of TOML is read into a table, whose parts denote trees (`NodeDenotes`).  Tables come
about in several ways, and under headers they stand in the order in which they were finished, so a
table denotes a tree whatever the order of its entries.  Dates and times do not denote any tree.

`Extracts` says that an extract takes from a part of a document the value that its tree has.  It
also fails on a tree that is refused, but unlike a reader of JSON it may take more than trees have
values for: the name of a choice may have an empty list or an empty table as its value.
-/

set_option autoImplicit false

namespace HexSigner.Toml

open Document

/-! ## What nodes denote -/

mutual

/-- A part of a document denotes a tree. -/
inductive NodeDenotes : Node → Tree → Prop
  | text (s : String) (span : Span) : NodeDenotes (.scalar (.text s) span) (.text s)
  | integer (i : Int) (span : Span) : NodeDenotes (.scalar (.integer i) span) (.integer i)
  | real (negative : Bool) (d : Decimal) (span : Span) :
    NodeDenotes (.scalar (.real (d.nearest negative)) span) (.real negative d)
  | boolean (b : Bool) (span : Span) : NodeDenotes (.scalar (.boolean b) span) (.boolean b)
  | list {nodes : List Node} {items : List Tree} (span : Span)
      (h : List.Forall₂ NodeDenotes nodes items) : NodeDenotes (.list nodes span) (.list items)
  | table {t : Table} {es es' : Entries} (h : List.Forall₂ EntryDenotes t.entries es)
      (horder : es.Perm es') : NodeDenotes (.table t) (.table es')
  | tables {ts : List Table} {items : List Tree}
      (h : List.Forall₂ NodeDenotes (ts.map .table) items) : NodeDenotes (.tables ts) (.list items)

/-- An entry denotes an entry with the same key. -/
inductive EntryDenotes : Key × Node → String × Tree → Prop
  | intro {key : Key} {node : Node} {t : Tree} (h : NodeDenotes node t) :
    EntryDenotes (key, node) (key.name, t)

end

/-! ## Single values -/

/-- An extract takes the values of trees from the parts of documents that denote them. -/
structure Extracts {α : Type} (e : Extract α) (value? : Tree → Option α)
    (refuses fits : Tree → Prop) : Prop where
  ok : ∀ {node : Node} {t : Tree} {a : α}, NodeDenotes node t → fits t → value? t = some a →
    e node = .ok a
  error : ∀ {node : Node} {t : Tree}, NodeDenotes node t → fits t → refuses t →
    ∃ m, e node = .error m

/-- An extract takes what is of a kind. -/
abbrev ExtractsKind {α : Type} (e : Extract α) (k : Kind α) : Prop :=
  Extracts e k.value? k.refuses k.fits

theorem extracts_text : ExtractsKind .text (.scalar Tree.text?) where
  ok h _ hvalue := by
    cases h with
    | text =>
      cases hvalue
      rfl
    | _ => cases hvalue
  error h _ hrefuses := by
    cases h with
    | text => cases hrefuses.2
    | _ => exact ⟨_, rfl⟩

theorem extracts_boolean : ExtractsKind .boolean (.scalar Tree.boolean?) where
  ok h _ hvalue := by
    cases h with
    | boolean =>
      cases hvalue
      rfl
    | _ => cases hvalue
  error h _ hrefuses := by
    cases h with
    | boolean => cases hrefuses.2
    | _ => exact ⟨_, rfl⟩

theorem extracts_choice {α : Type} (known : List (String × α)) :
    ExtractsKind (.choice known) (.scalar (Tree.choice? known)) where
  ok h _ hvalue := by
    cases h with
    | text s span =>
      have hlookup : known.lookup s = some _ := hvalue
      rw [Extract.choice, Extract.named, hlookup]
    | _ => cases hvalue
  error h _ hrefuses := by
    obtain ⟨hscalar, hnone⟩ := hrefuses
    cases h with
    | text s span =>
      have hlookup : known.lookup s = none := hnone
      rw [Extract.choice, Extract.named, hlookup]
      exact ⟨_, rfl⟩
    | list | table | tables => cases hscalar
    | _ => exact ⟨_, rfl⟩

/-! ## Structures -/

section Record

variable {ρ : Type} {fields : List (Extract.Field ρ)} {slots : List (Slot ρ)}

/-- A field takes the values of a slot. -/
structure FieldExtracts (field : Extract.Field ρ) (slot : Slot ρ) : Prop where
  name_eq : field.name = slot.name
  extracts : ∀ r : ρ, Extracts (field.extract r) (slot.put? r) slot.refuses slot.fits

theorem fieldExtracts_of {α : Type} {name : String} {e : Extract α} {k : Kind α} {put : ρ → α → ρ}
    (h : ExtractsKind e k) : FieldExtracts (.of name e put) (.of name k put) where
  name_eq := rfl
  extracts r :=
    { ok := fun {node t r'} ht hfits hput ↦ by
        obtain ⟨a, ha, rfl⟩ := Option.map_eq_some_iff.mp hput
        show (e node).map (put r) = _
        rw [h.ok ht hfits ha]
        rfl
      error := fun {node t} ht hfits hrefuses ↦ by
        obtain ⟨m, hm⟩ := h.error ht hfits hrefuses
        show ∃ m, (e node).map (put r) = .error m
        exact ⟨m, by rw [hm]; rfl⟩ }

theorem entries_of_overlay (hfields : List.Forall₂ FieldExtracts fields slots)
    {nodes : List (Key × Node)} {es : Entries} (h : List.Forall₂ EntryDenotes nodes es)
    (hfits : FitEntries slots es) {r s : ρ} (hoverlay : overlay slots r es = some s) :
    Extract.entries fields r nodes = .ok s := by
  induction h generalizing r with
  | nil =>
    cases hoverlay
    rfl
  | @cons n e nodes es hn _ ih =>
    obtain ⟨hfit, htail⟩ := List.forall_mem_cons.mp hfits
    obtain ⟨r', hstep, hrest⟩ := Option.bind_eq_some_iff.mp hoverlay
    obtain @⟨key, node, t, ht⟩ := hn
    have hfind := find?_of_forall₂ hfields FieldExtracts.name_eq key.name
    rw [Extract.entries]
    rw [step] at hstep
    dsimp only at hstep
    cases hpart : slotOf? slots key.name with
    | none =>
      rw [hpart] at hfind hstep
      cases hstep
      rw [hfind]
      exact ih htail hrest
    | some p =>
      rw [hpart] at hfind hstep
      obtain ⟨f, hf, hfield⟩ := hfind
      rw [hf]
      dsimp only
      rw [(hfield.extracts r).ok ht (hfit p hpart) hstep]
      exact ih htail hrest

theorem entries_of_refused (hfields : List.Forall₂ FieldExtracts fields slots)
    {nodes : List (Key × Node)} {es : Entries} (h : List.Forall₂ EntryDenotes nodes es)
    (hfits : FitEntries slots es) (hrefused : ∃ e ∈ es, Refused slots e) (r : ρ) :
    ∃ m, Extract.entries fields r nodes = .error m := by
  induction h generalizing r with
  | nil =>
    obtain ⟨e, he, -⟩ := hrefused
    cases he
  | @cons n e nodes es hn _ ih =>
    obtain ⟨hfit, htail⟩ := List.forall_mem_cons.mp hfits
    obtain @⟨key, node, t, ht⟩ := hn
    have hfind := find?_of_forall₂ hfields FieldExtracts.name_eq key.name
    rw [List.exists_mem_cons_iff] at hrefused
    rw [Extract.entries]
    cases hpart : slotOf? slots key.name with
    | none =>
      rw [hpart] at hfind
      rw [hfind]
      refine ih htail (hrefused.resolve_left ?_) r
      rintro ⟨p, hp, -⟩
      exact absurd (hpart.symm.trans hp) nofun
    | some p =>
      rw [hpart] at hfind
      obtain ⟨f, hf, hfield⟩ := hfind
      rw [hf]
      dsimp only
      cases hextract : f.extract r node with
      | error m => exact ⟨_, rfl⟩
      | ok r' =>
        refine ih htail (hrefused.resolve_left ?_) r'
        rintro ⟨q, hq, hrefuses⟩
        cases hpart.symm.trans hq
        obtain ⟨m, hm⟩ := (hfield.extracts r).error ht (hfit p hpart) hrefuses
        exact absurd (hextract.symm.trans hm) nofun

/-- **A structure is taken from a table as its tree says.** -/
theorem extracts_record (hfields : List.Forall₂ FieldExtracts fields slots) (hapart : Apart slots)
    (expected : String) (r : ρ) :
    ExtractsKind (.record expected fields r) (.record slots r) where
  ok h hfits hvalue := by
    cases h with
    | table h horder =>
      have hoverlay := overlay_perm hapart horder.symm hfits.1 r
      exact entries_of_overlay hfields h (fun e he ↦ hfits.2 e (horder.mem_iff.mp he))
        (hoverlay.symm.trans hvalue)
    | _ => cases hfits
  error h hfits hrefuses := by
    cases h with
    | table h horder =>
      obtain ⟨e, he, hrefused⟩ := hrefuses
      exact entries_of_refused hfields h (fun e he ↦ hfits.2 e (horder.mem_iff.mp he))
        ⟨e, horder.mem_iff.mpr he, hrefused⟩ r
    | _ => cases hfits

end Record

end HexSigner.Toml
