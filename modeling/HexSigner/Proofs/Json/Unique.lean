import HexSigner.Proofs.Json.Strings

/-!
# What a text denotes is determined

A text of JSON does not denote two trees: its first character tells which kind of value it is, and
from there on there is nothing to choose (`valueForm_unique`).  Numbers are the exception, since the
same digits stand for many decimals of one value.  So this is said about trees without numbers
(`Denotes.unique`).
-/

set_option autoImplicit false

namespace HexSigner.Document

/-- A tree is no number. -/
def Tree.NoNumber : Tree → Prop
  | .integer _ | .real _ _ => False
  | _ => True

end HexSigner.Document

namespace HexSigner.Json

open Document

/-! ## The parts of a text -/

/-- Where blanks end is determined. -/
theorem Blanks.unique {cs ds es : List Char} {c d : Char} (h : Blanks cs (c :: ds))
    (h' : Blanks cs (d :: es)) (hc : isBlank c = false) (hd : isBlank d = false) :
    c = d ∧ ds = es := by
  rw [← List.cons.injEq, ← h.skipBlank_cons hc, ← h'.skipBlank_cons hd]

theorem Spells.unique {cs s s' rest rest' : List Char} (h : Spells cs s rest)
    (h' : Spells cs s' rest') : s = s' ∧ rest = rest' := by
  have hread := (readString_of_spells h).symm.trans (readString_of_spells h')
  rwa [Except.ok.injEq, Prod.mk.injEq] at hread

/-- What starts like something that is no number is no number. -/
theorem Starts.noNumber {t t' : Tree} {c : Char} (h : Starts t c) (h' : Starts t' c)
    (ht : t.NoNumber) : t'.NoNumber := by
  have hnumber : ¬(c = '-' ∨ c.isDigit = true) := by
    cases t with
    | integer => exact ht.elim
    | real => exact ht.elim
    | boolean b => cases b <;> (cases h; decide)
    | _ => cases h; decide
  cases t' with
  | integer => exact hnumber h'
  | real => exact hnumber h'
  | _ => trivial

/-- A key is determined, and so is what follows after its colon. -/
theorem key_unique {cs ks ks' key key' as as' bs bs' : List Char} (hfront : Blanks cs ('"' :: ks))
    (hkey : Spells ks key as) (hcolon : Blanks as (':' :: bs)) (hfront' : Blanks cs ('"' :: ks'))
    (hkey' : Spells ks' key' as') (hcolon' : Blanks as' (':' :: bs')) : key = key' ∧ bs = bs' := by
  obtain ⟨-, rfl⟩ := hfront.unique hfront' rfl rfl
  obtain ⟨rfl, rfl⟩ := hkey.unique hkey'
  exact ⟨rfl, (hcolon.unique hcolon' rfl rfl).2⟩

/-- A list that is empty has no items. -/
theorem ItemsForm.not_closing {cs rest rest' : List Char} {items : List Tree}
    (h : ItemsForm cs items rest) : ¬Blanks cs (']' :: rest') := by
  intro hclosing
  obtain ⟨c, ds, t, hfront, hc⟩ := h.head
  exact hc.ne (not_starts t (by decide) rfl) (hfront.unique hclosing hc.isBlank_eq rfl).1

/-- An object that is empty has no members. -/
theorem MembersForm.not_closing {cs rest rest' : List Char} {es : Entries}
    (h : MembersForm cs es rest) : ¬Blanks cs ('\x7d' :: rest') := by
  intro hclosing
  obtain ⟨ks, hfront⟩ := h.head
  exact absurd (hfront.unique hclosing rfl rfl).1 (by decide)

/-! ## Values -/

mutual

/-- **A value is determined by its text**, and so is what follows after it. -/
theorem valueForm_unique : ∀ {cs ds ds' rest rest' : List Char} {t t' : Tree}, Blanks cs ds →
    ValueForm ds t rest → t.Every Tree.NoNumber → Blanks cs ds' → ValueForm ds' t' rest' →
    t = t' ∧ rest = rest'
  | cs, ds, ds', rest, rest', t, t', hfront, h, hnumber, hfront', h' => by
    obtain ⟨c, ds, rfl, hc⟩ := h.head
    obtain ⟨c', ds', rfl, hc'⟩ := h'.head
    obtain ⟨rfl, rfl⟩ := hfront.unique hfront' hc.isBlank_eq hc'.isBlank_eq
    have hnumber' := hc.noNumber hc' hnumber.self
    cases h with
    | integer | real => exact hnumber.elim
    | text h =>
      cases h' with
      | integer | real => exact hnumber'.elim
      | text h' =>
        obtain ⟨rfl, rfl⟩ := h.unique h'
        exact ⟨rfl, rfl⟩
    | true =>
      cases h' with
      | integer | real => exact hnumber'.elim
      | true => exact ⟨rfl, rfl⟩
    | false =>
      cases h' with
      | integer | real => exact hnumber'.elim
      | false => exact ⟨rfl, rfl⟩
    | emptyList h =>
      cases h' with
      | integer | real => exact hnumber'.elim
      | emptyList h' => exact ⟨rfl, (h.unique h' rfl rfl).2⟩
      | list h' => exact absurd h h'.not_closing
    | list h =>
      cases h' with
      | integer | real => exact hnumber'.elim
      | emptyList h' => exact absurd h' h.not_closing
      | list h' =>
        obtain ⟨rfl, rfl⟩ := itemsForm_unique h hnumber.2 h'
        exact ⟨rfl, rfl⟩
    | emptyTable h =>
      cases h' with
      | integer | real => exact hnumber'.elim
      | emptyTable h' => exact ⟨rfl, (h.unique h' rfl rfl).2⟩
      | table h' => exact absurd h h'.not_closing
    | table h =>
      cases h' with
      | integer | real => exact hnumber'.elim
      | emptyTable h' => exact absurd h' h.not_closing
      | table h' =>
        obtain ⟨rfl, rfl⟩ := membersForm_unique h hnumber.2 h'
        exact ⟨rfl, rfl⟩

theorem itemsForm_unique : ∀ {cs rest rest' : List Char} {items items' : List Tree},
    ItemsForm cs items rest → Tree.EveryItem Tree.NoNumber items → ItemsForm cs items' rest' →
    items = items' ∧ rest = rest'
  | _, _, _, _, _, .last hfront h hback, hnumber, h' => by
    cases h' with
    | last hfront' h' hback' =>
      obtain ⟨rfl, rfl⟩ := valueForm_unique hfront h hnumber.1 hfront' h'
      exact ⟨rfl, (hback.unique hback' rfl rfl).2⟩
    | cons hfront' h' hback' =>
      obtain ⟨rfl, rfl⟩ := valueForm_unique hfront h hnumber.1 hfront' h'
      exact absurd (hback.unique hback' rfl rfl).1 (by decide)
  | _, _, _, _, _, .cons hfront h hback hrest, hnumber, h' => by
    cases h' with
    | last hfront' h' hback' =>
      obtain ⟨rfl, rfl⟩ := valueForm_unique hfront h hnumber.1 hfront' h'
      exact absurd (hback.unique hback' rfl rfl).1 (by decide)
    | cons hfront' h' hback' hrest' =>
      obtain ⟨rfl, rfl⟩ := valueForm_unique hfront h hnumber.1 hfront' h'
      obtain ⟨-, rfl⟩ := hback.unique hback' rfl rfl
      obtain ⟨rfl, rfl⟩ := itemsForm_unique hrest hnumber.2 hrest'
      exact ⟨rfl, rfl⟩

theorem membersForm_unique : ∀ {cs rest rest' : List Char} {es es' : Entries},
    MembersForm cs es rest → Tree.EveryEntry Tree.NoNumber es → MembersForm cs es' rest' →
    es = es' ∧ rest = rest'
  | _, _, _, _, _, .last hfront hkey hcolon hvalue h hback, hnumber, h' => by
    cases h' with
    | last hfront' hkey' hcolon' hvalue' h' hback' =>
      obtain ⟨rfl, rfl⟩ := key_unique hfront hkey hcolon hfront' hkey' hcolon'
      obtain ⟨rfl, rfl⟩ := valueForm_unique hvalue h hnumber.1 hvalue' h'
      exact ⟨rfl, (hback.unique hback' rfl rfl).2⟩
    | cons hfront' hkey' hcolon' hvalue' h' hback' =>
      obtain ⟨rfl, rfl⟩ := key_unique hfront hkey hcolon hfront' hkey' hcolon'
      obtain ⟨rfl, rfl⟩ := valueForm_unique hvalue h hnumber.1 hvalue' h'
      exact absurd (hback.unique hback' rfl rfl).1 (by decide)
  | _, _, _, _, _, .cons hfront hkey hcolon hvalue h hback hrest, hnumber, h' => by
    cases h' with
    | last hfront' hkey' hcolon' hvalue' h' hback' =>
      obtain ⟨rfl, rfl⟩ := key_unique hfront hkey hcolon hfront' hkey' hcolon'
      obtain ⟨rfl, rfl⟩ := valueForm_unique hvalue h hnumber.1 hvalue' h'
      exact absurd (hback.unique hback' rfl rfl).1 (by decide)
    | cons hfront' hkey' hcolon' hvalue' h' hback' hrest' =>
      obtain ⟨rfl, rfl⟩ := key_unique hfront hkey hcolon hfront' hkey' hcolon'
      obtain ⟨rfl, rfl⟩ := valueForm_unique hvalue h hnumber.1 hvalue' h'
      obtain ⟨-, rfl⟩ := hback.unique hback' rfl rfl
      obtain ⟨rfl, rfl⟩ := membersForm_unique hrest hnumber.2 hrest'
      exact ⟨rfl, rfl⟩

end

/-- **A text does not denote two trees**, apart from numbers. -/
theorem Denotes.unique {text : String} {t t' : Tree} (h : Denotes text t)
    (hnumber : t.Every Tree.NoNumber) (h' : Denotes text t') : t = t' := by
  obtain ⟨cs, ds, hfront, hvalue, -⟩ := h
  obtain ⟨cs', ds', hfront', hvalue', -⟩ := h'
  exact (valueForm_unique hfront hvalue hnumber hfront' hvalue').1

end HexSigner.Json
