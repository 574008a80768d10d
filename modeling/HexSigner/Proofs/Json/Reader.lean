import HexSigner.Proofs.Json.Skip

/-!
# Readers read what they are for

A reader is made for a kind of tree, and a text that denotes a tree of the kind is read as its
value.  `Reads` says more than that: a tree that has no value is an error, so that nothing is ever
read as something else.  Trees do not have a `null`, which is why this holds even of choices, where
`null` is the one thing that may follow after the name of a choice.

For single values, what a value starts with decides (`Starts`).  A structure is read member by
member, along the grammar (`readMembers_of_form`): members that are known go into the structure,
just as `overlay` puts them there, and all others are passed over.
-/

set_option autoImplicit false

namespace HexSigner.Json

open Document

/-- A reader reads the trees that it is asked about, wherever they stand. -/
def Reads {α : Type} (rd : Reader α) (value? : Tree → Option α) (fits : Tree → Prop) : Prop :=
  ∀ {cs ds rest : List Char} {t : Tree}, ValueForm cs t rest → Delimited rest → Blanks ds cs →
    fits t →
    match value? t with
    | some a => rd.run ds = .ok (a, rest)
    | none => ∃ f, rd.run ds = .error f

/-! ## Single values -/

section Heads

variable {c : Char} {cs ds : List Char} (h : skipBlank ds = c :: cs)
include h

theorem readText_of_head {expected : String} (hc : c ≠ '"') :
    ∃ f, readText expected ds = .error f := by
  rw [readText, h]
  split
  · next heq =>
    cases heq
    exact absurd rfl hc
  · exact ⟨_, rfl⟩

theorem readBoolean_of_head (ht : c ≠ 't') (hf : c ≠ 'f') : ∃ f, readBoolean ds = .error f := by
  rw [readBoolean, h]
  split
  · next heq =>
    cases heq
    exact absurd rfl ht
  · next heq =>
    cases heq
    exact absurd rfl hf
  · exact ⟨_, rfl⟩

theorem readUnit_of_head (hn : c ≠ 'n') : ∃ f, readUnit ds = .error f := by
  rw [readUnit, h]
  split
  · next heq =>
    cases heq
    exact absurd rfl hn
  · exact ⟨_, rfl⟩

theorem readChoice_of_head {α : Type} {known : List (String × α)} (hquote : c ≠ '"')
    (hbrace : c ≠ '\x7b') : ∃ f, readChoice known ds = .error f := by
  rw [readChoice, h]
  dsimp only
  rw [if_neg hquote, if_neg hbrace]
  exact ⟨_, rfl⟩

end Heads

theorem readText_of_spells {expected : String} {ds cs s rest : List Char}
    (h : skipBlank ds = '"' :: cs) (hs : Spells cs s rest) :
    readText expected ds = .ok (String.ofList s, rest) := by
  rw [readText, h]
  show (readString cs).map _ = _
  rw [readString_of_spells hs]
  rfl

theorem reads_text : Reads .text Tree.text? fun _ ↦ True := by
  intro cs ds rest t h _ hblank _
  obtain ⟨c, cs, rfl, hc⟩ := h.head
  have hskip := hblank.skipBlank_cons hc.isBlank_eq
  cases h with
  | text hs => exact readText_of_spells hskip hs
  | integer | real => exact readText_of_head hskip (hc.ne (by simp [Starts]))
  | _ => exact readText_of_head hskip (by decide)

theorem reads_boolean : Reads .boolean Tree.boolean? fun _ ↦ True := by
  intro cs ds rest t h _ hblank _
  obtain ⟨c, cs, rfl, hc⟩ := h.head
  have hskip := hblank.skipBlank_cons hc.isBlank_eq
  cases h with
  | true =>
    have hrun : readBoolean ds =
        (skipWord "rue".toList ("rue".toList ++ rest)).map (Bool.true, ·) := by
      rw [readBoolean, hskip]
      rfl
    show readBoolean ds = _
    rw [hrun, skipWord_append]
    rfl
  | false =>
    have hrun : readBoolean ds =
        (skipWord "alse".toList ("alse".toList ++ rest)).map (Bool.false, ·) := by
      rw [readBoolean, hskip]
      rfl
    show readBoolean ds = _
    rw [hrun, skipWord_append]
    rfl
  | integer | real =>
    exact readBoolean_of_head hskip (hc.ne (by simp [Starts])) (hc.ne (by simp [Starts]))
  | _ => exact readBoolean_of_head hskip (by decide) (by decide)

/-! ## Choices -/

section Choice

variable {α : Type} {known : List (String × α)}

variable (known) in
theorem readName_of_spells {ds cs s rest : List Char} (h : skipBlank ds = '"' :: cs)
    (hs : Spells cs s rest) :
    match known.lookup (String.ofList s) with
    | some a => readName known ds = .ok (a, rest)
    | none => ∃ f, readName known ds = .error f := by
  rw [readName, readText_of_spells h hs]
  dsimp only
  cases known.lookup (String.ofList s) with
  | none => exact ⟨_, rfl⟩
  | some a => rfl

/-- After the name of a choice, no tree may follow. -/
theorem readChoice_of_member {ds cs ks key as bs vs rest : List Char} {t : Tree}
    (h : skipBlank ds = '\x7b' :: cs) (hfront : Blanks cs ('"' :: ks)) (hkey : Spells ks key as)
    (hcolon : Blanks as (':' :: bs)) (hvalue : Blanks bs vs) (ht : ValueForm vs t rest) :
    ∃ f, readChoice known ds = .error f := by
  obtain ⟨c, vs, rfl, hc⟩ := ht.head
  obtain ⟨f, hunit⟩ := readUnit_of_head (hvalue.skipBlank_cons hc.isBlank_eq)
    (hc.ne (not_starts t (by decide) rfl))
  have hname := readName_of_spells known (skipBlank_cons (c := '"') rfl ks) hkey
  rw [readChoice, h]
  simp only [Char.reduceEq, if_false, if_true, readChoiceKey, hfront.skipBlank_cons rfl]
  cases hlookup : known.lookup (String.ofList key) with
  | none =>
    rw [hlookup] at hname
    obtain ⟨f, hname⟩ := hname
    rw [hname]
    exact ⟨f, rfl⟩
  | some a =>
    rw [hlookup] at hname
    rw [hname]
    dsimp only
    rw [readColon_of_blanks hcolon]
    dsimp only
    rw [hunit]
    exact ⟨f, rfl⟩

theorem reads_choice (known : List (String × α)) :
    Reads (.choice known) (Tree.choice? known) fun _ ↦ True := by
  intro cs ds rest t h _ hblank _
  obtain ⟨c, cs, rfl, hc⟩ := h.head
  have hskip := hblank.skipBlank_cons hc.isBlank_eq
  cases h with
  | @text _ s _ hs =>
    have hname := readName_of_spells known (skipBlank_cons (c := '"') rfl _) hs
    have hrun : (Reader.choice known).run ds = readName known ('"' :: cs) := by
      show readChoice known ds = _
      rw [readChoice, hskip]
      rfl
    rw [hrun]
    exact hname
  | integer | real =>
    exact readChoice_of_head hskip (hc.ne (by simp [Starts])) (hc.ne (by simp [Starts]))
  | emptyTable hend =>
    show ∃ f, readChoice known ds = .error f
    rw [readChoice, hskip]
    simp only [Char.reduceEq, if_false, if_true, readChoiceKey, hend.skipBlank_cons rfl]
    exact ⟨_, rfl⟩
  | table h =>
    cases h with
    | last hfront hkey hcolon hvalue h =>
      exact readChoice_of_member hskip hfront hkey hcolon hvalue h
    | cons hfront hkey hcolon hvalue h =>
      exact readChoice_of_member hskip hfront hkey hcolon hvalue h
  | _ => exact readChoice_of_head hskip (by decide) (by decide)

end Choice

/-! ## Structures -/

section Record

variable {ρ : Type} {fields : List (Field ρ)} {slots : List (Slot ρ)}

/-- A field reads the trees that a slot takes. -/
structure FieldReads (field : Field ρ) (slot : Slot ρ) : Prop where
  name_eq : field.name = slot.name
  reads : ∀ r : ρ, Reads (field.read r) (slot.put? r) slot.fits

theorem fieldReads_of {α : Type} {name : String} {rd : Reader α} {k : Kind α} {put : ρ → α → ρ}
    (h : Reads rd k.value? k.fits) : FieldReads (.of name rd put) (.of name k put) := by
  refine ⟨rfl, fun r cs ds rest t ht hrest hblank hfits ↦ ?_⟩
  have hread := h ht hrest hblank hfits
  simp only [Slot.of, Field.of]
  cases hvalue : k.value? t with
  | none =>
    rw [hvalue] at hread
    obtain ⟨f, hread⟩ := hread
    exact ⟨f, by rw [hread]; rfl⟩
  | some a =>
    rw [hvalue] at hread
    dsimp only [Option.map_some]
    rw [hread]
    rfl

/-! ### Members -/

/-- The first member comes right after the brace. -/
theorem nextMember_first {cs ks : List Char} (h : Blanks cs ('"' :: ks)) :
    nextMember true cs = .ok (true, ks) := by
  rw [nextMember, h.skipBlank_cons rfl]
  rfl

/-- Any other member comes after a comma. -/
theorem nextMember_comma {cs ds ks : List Char} (hcomma : Blanks cs (',' :: ds))
    (h : Blanks ds ('"' :: ks)) : nextMember false cs = .ok (true, ks) := by
  rw [nextMember, hcomma.skipBlank_cons rfl]
  simp only [Char.reduceEq, if_false, ne_eq, not_true_eq_false, Bool.false_eq_true,
    h.skipBlank_cons rfl]
  rfl

theorem nextMember_closing {first : Bool} {cs rest : List Char} (h : Blanks cs ('\x7d' :: rest)) :
    nextMember first cs = .ok (false, rest) := by
  rw [nextMember, h.skipBlank_cons rfl]
  rfl

theorem skipValue_of_form {cs ds rest : List Char} {t : Tree} (h : ValueForm cs t rest)
    (hrest : Delimited rest) (hblank : Blanks ds cs) : skipValue ds = .ok rest := by
  rw [skipValue, skipWithin_of_valueForm h hrest [] hblank, skipClosing]

/-- A member of an object goes where `step` puts it, or is an error. -/
theorem readMembers_of_entry (hfields : List.Forall₂ FieldReads fields slots) {seen : List String}
    {first : Bool} {r : ρ} {cs ks key as bs vs rest : List Char} {t : Tree}
    (hnext : nextMember first cs = .ok (true, ks)) (hkey : Spells ks key as)
    (hcolon : Blanks as (':' :: bs)) (hvalue : Blanks bs vs) (ht : ValueForm vs t rest)
    (hrest : Delimited rest) (hseen : String.ofList key ∉ seen)
    (hfits : ∀ p, slotOf? slots (String.ofList key) = some p → p.fits t) :
    match step slots r (String.ofList key, t) with
    | some r' => ∃ seen', (∀ k ∈ seen', k = String.ofList key ∨ k ∈ seen) ∧
        readMembers fields seen first r cs = readMembers fields seen' false r' rest
    | none => ∃ f, readMembers fields seen first r cs = .error f := by
  have hfind := find?_of_forall₂ hfields FieldReads.name_eq (String.ofList key)
  rw [readMembers_eq hnext (readString_of_spells hkey) (readColon_of_blanks hcolon), step]
  cases hpart : slotOf? slots (String.ofList key) with
  | none =>
    rw [hpart] at hfind
    rw [hfind, skipValue_of_form ht hrest hvalue]
    exact ⟨seen, fun _ ↦ .inr, rfl⟩
  | some p =>
    rw [hpart] at hfind
    obtain ⟨f, hf, hreads⟩ := hfind
    have hname : f.name = String.ofList key := by simpa using List.find?_some hf
    have hread := hreads.reads r ht hrest hvalue (hfits p hpart)
    rw [hf]
    dsimp only
    rw [if_neg (by rwa [hname])]
    cases hput : p.put? r t with
    | none =>
      rw [hput] at hread
      obtain ⟨m, hread⟩ := hread
      exact ⟨m, by rw [hread]⟩
    | some r' =>
      rw [hput] at hread
      refine ⟨f.name :: seen, ?_, by rw [hread]⟩
      rw [hname]
      exact fun _ ↦ List.mem_cons.mp

/-- **The members of an object are laid over a structure.** -/
theorem readMembers_of_form (hfields : List.Forall₂ FieldReads fields slots) {cs rest : List Char}
    {es : Entries} (h : MembersForm cs es rest) {seen : List String} {first : Bool}
    {ds : List Char} (r : ρ)
    (hnext : ∀ ks, Blanks cs ('"' :: ks) → nextMember first ds = .ok (true, ks))
    (hkeys : (es.map (·.1)).Nodup) (hseen : ∀ e ∈ es, e.1 ∉ seen)
    (hfits : FitEntries slots es) :
    match overlay slots r es with
    | some s => readMembers fields seen first r ds = .ok (s, rest)
    | none => ∃ f, readMembers fields seen first r ds = .error f := by
  -- The recursion is that of `overlay`: the form of the members is mutual with that of values.
  induction es generalizing cs ds seen first r with
  | nil => cases h
  | cons e es ih =>
    obtain ⟨key, t⟩ := e
    rw [List.map_cons, List.nodup_cons] at hkeys
    rw [List.forall_mem_cons] at hseen
    obtain ⟨hfit, htail⟩ := List.forall_mem_cons.mp hfits
    rw [overlay]
    cases h with
    | last hfront hkey hcolon hvalue ht hback =>
      have hentry := readMembers_of_entry hfields (r := r) (hnext _ hfront) hkey hcolon hvalue ht
        (hback.delimited (delimited_closing .object _)) hseen.1 hfit
      cases hstep : step slots r (String.ofList _, t) with
      | none => rwa [hstep] at hentry
      | some r' =>
        rw [hstep] at hentry
        obtain ⟨_, -, hentry⟩ := hentry
        rw [Option.bind_some, overlay, hentry]
        exact readMembers_of_end (nextMember_closing hback)
    | cons hfront hkey hcolon hvalue ht hback hmembers =>
      have hentry := readMembers_of_entry hfields (r := r) (hnext _ hfront) hkey hcolon hvalue ht
        (hback.delimited (delimited_comma _)) hseen.1 hfit
      cases hstep : step slots r (String.ofList _, t) with
      | none => rwa [hstep] at hentry
      | some r' =>
        rw [hstep] at hentry
        obtain ⟨seen', hsub, hentry⟩ := hentry
        rw [Option.bind_some, hentry]
        refine ih hmembers r' (fun ks ↦ nextMember_comma hback) hkeys.2 (fun e he hmem ↦ ?_) htail
        obtain heq | hmem := hsub _ hmem
        · exact hkeys.1 (List.mem_map.mpr ⟨e, he, heq⟩)
        · exact hseen.2 e he hmem

theorem reads_record (hfields : List.Forall₂ FieldReads fields slots) (expected : String) (r : ρ) :
    Reads (.record expected fields r) (Kind.record slots r).value? (Kind.record slots r).fits := by
  intro cs ds rest t h _ hblank hfits
  obtain ⟨c, cs, rfl, hc⟩ := h.head
  have hskip := hblank.skipBlank_cons hc.isBlank_eq
  have hrun : ∀ cs, skipBlank ds = '\x7b' :: cs →
      (Reader.record expected fields r).run ds = readMembers fields [] true r cs := by
    intro cs hskip
    show readRecord expected fields r ds = _
    rw [readRecord, hskip]
    rfl
  cases h with
  | emptyTable hend =>
    rw [hrun _ hskip]
    exact readMembers_of_end (nextMember_closing hend)
  | table h =>
    rw [hrun _ hskip]
    exact readMembers_of_form hfields h r (fun ks ↦ nextMember_first) hfits.1
      (fun _ _ ↦ List.not_mem_nil) hfits.2
  | _ => cases hfits

end Record

/-! ## Whole texts -/

/-- **A text that denotes a tree is read as the value of the tree.** -/
theorem Reads.runAll {α : Type} {rd : Reader α} {value? : Tree → Option α} {fits : Tree → Prop}
    (h : Reads rd value? fits) {text : String} {t : Tree} (ht : Denotes text t) (hfits : fits t) :
    match value? t with
    | some a => rd.runAll text = .ok a
    | none => ∃ f, rd.runAll text = .error f := by
  obtain ⟨cs, ds, hfront, hform, hback⟩ := ht
  have hread := h hform (hback.delimited delimited_nil) hfront hfits
  rw [Reader.runAll]
  cases hvalue : value? t with
  | none =>
    rw [hvalue] at hread
    obtain ⟨f, hread⟩ := hread
    exact ⟨f, by rw [hread]⟩
  | some a =>
    rw [hvalue] at hread
    dsimp only at hread ⊢
    rw [hread]
    dsimp only
    rw [readEnd, hback.skipBlank_eq]
    rfl

end HexSigner.Json
