import HexSigner.Proofs.Der.Element

/-!
# The grammar of tagged fields

Behind its fixed part a document may have any number of context-specific fields.  Two readers deal
with them.  One skips the fields with small numbers and looks for the field with a given number
(`readsBefore_bitStringField`); the other reads fields up to the end (`readsWhole_fields`).

Neither reads a grammar in the sense of `Reads`.  Where the first stops depends on the tag that
follows, and both count down from the number of bytes that are left; every field takes at least one
byte, so the count never runs out before the bytes do, and it appears in no result.
-/

set_option autoImplicit false

namespace HexSigner.Der

/-! ## The forms -/

/-- Any number of forms, one after the other. -/
inductive Many (F : List UInt8 → Prop) : List UInt8 → Prop
  | nil : Many F []
  | cons {front back : List UInt8} (h : F front) (hback : Many F back) : Many F (front ++ back)

/-- A context-specific field with a given number, of either form and with any contents. -/
def FieldForm (number : Nat) (bytes : List UInt8) : Prop :=
  ∃ constructed contents, ElementForm (.contextSpecific constructed number) contents bytes

/-- A context-specific field that holds one element. -/
def WrapperForm (bytes : List UInt8) : Prop :=
  ∃ number contents, ElementForm (.contextSpecific true number) contents bytes ∧
    ∃ tag inner, ElementForm tag inner contents

/-- The number of a context-specific tag. -/
def Tag.fieldNumber? : Tag → Option Nat
  | .contextSpecific _ n => some n
  | _ => none

/-- Where the search for a field ends: in front of the field, if it is found, and otherwise at the
end or in front of anything that is no field with this number or a smaller one. -/
def SearchEnds (number : Nat) (found : Bool) : List UInt8 → Prop
  | [] => found = false
  | b :: _ => ∃ tag, Tag.ofByte b = .ok tag ∧ (∀ n ∈ tag.fieldNumber?, number ≤ n) ∧
      found = (tag.fieldNumber? == some number)

theorem many_iff {F : List UInt8 → Prop} {bytes : List UInt8} :
    Many F bytes ↔ bytes = [] ∨ ∃ front back, bytes = front ++ back ∧ F front ∧ Many F back := by
  constructor
  · intro h
    cases h with
    | nil => exact Or.inl rfl
    | cons h hback => exact Or.inr ⟨_, _, rfl, h, hback⟩
  · rintro (rfl | ⟨front, back, rfl, h, hback⟩)
    · exact .nil
    · exact .cons h hback

theorem Many.mono {F G : List UInt8 → Prop} (hFG : ∀ t, F t → G t) {bytes : List UInt8}
    (h : Many F bytes) : Many G bytes := by
  induction h with
  | nil => exact .nil
  | cons h hback ih => exact .cons (hFG _ h) ih

theorem Many.append {F : List UInt8 → Prop} {s t : List UInt8} (hs : Many F s) (ht : Many F t) :
    Many F (s ++ t) := by
  induction hs with
  | nil => exact ht
  | cons h hback ih =>
    rw [List.append_assoc]
    exact .cons h ih

theorem Many.single {F : List UInt8 → Prop} {bytes : List UInt8} (h : F bytes) : Many F bytes := by
  have hcons := Many.cons h .nil
  rwa [List.append_nil] at hcons

/-- An element begins with its tag. -/
theorem ElementForm.exists_cons {tag : Tag} {contents bytes : List UInt8}
    (h : ElementForm tag contents bytes) :
    ∃ b rest, bytes = b :: rest ∧ Tag.ofByte b = .ok tag := by
  obtain ⟨_, rfl, b, l, rfl, htag, -⟩ := h
  exact ⟨b, l ++ contents, rfl, htag⟩

theorem fieldForm_iff {number : Nat} {bytes : List UInt8} :
    FieldForm number bytes ↔
      ∃ tag contents, tag.fieldNumber? = some number ∧ ElementForm tag contents bytes := by
  constructor
  · rintro ⟨c, contents, hform⟩
    exact ⟨_, contents, rfl, hform⟩
  · rintro ⟨tag, contents, htag, hform⟩
    cases tag
    case contextSpecific c n =>
      cases htag
      exact ⟨c, contents, hform⟩
    all_goals cases htag

/-- A primitive tag is the tag of its number. -/
theorem Tag.eq_of_fieldNumber? {tag : Tag} {number : Nat} (hn : tag.fieldNumber? = some number)
    (hprimitive : ¬tag.isConstructed) : tag = .contextSpecific false number := by
  cases tag
  case contextSpecific c n =>
    rw [isConstructed, Bool.not_eq_true] at hprimitive
    rw [hprimitive, Option.some_inj.mp hn]
  all_goals cases hn

theorem WrapperForm.fieldForm {bytes : List UInt8} (h : WrapperForm bytes) :
    ∃ number, FieldForm number bytes := by
  obtain ⟨number, contents, hform, -⟩ := h
  exact ⟨number, true, contents, hform⟩

open Decoder

/-! ## Looking at the next byte -/

section Peek

variable {α : Type}

theorem peek?_bind (f : Option UInt8 → Decoder α) (r : Region) :
    (peek? >>= f) r = f r.bytes.head? r := rfl

theorem isFinished_bind (f : Bool → Decoder α) (r : Region) :
    (isFinished >>= f) r = f r.bytes.isEmpty r := rfl

theorem tagOfByte_bind_eq_ok_iff {b : UInt8} {f : Tag → Decoder α} {r : Region} {x : α × Region} :
    (tagOfByte b >>= f) r = .ok x ↔ ∃ tag, Tag.ofByte b = .ok tag ∧ f tag r = .ok x := by
  rw [bind_eq_ok_iff]
  constructor
  · rintro ⟨tag, r', h, hf⟩
    obtain ⟨_, htook, rfl, htag⟩ := (reads_tagOfByte b r tag r').mp h
    cases htook.eq_of_nil
    exact ⟨tag, htag, hf⟩
  · rintro ⟨tag, htag, hf⟩
    exact ⟨tag, r, (reads_tagOfByte b r tag r).mpr ⟨[], .nil r, rfl, htag⟩, hf⟩

end Peek

/-! ## Searching for a field -/

/-- The fields that a search skips, and where it ends. -/
def Searched (number : Nat) (found : Bool) (r r' : Region) : Prop :=
  ∃ skipped, r.Took skipped r' ∧ Many (fun t ↦ ∃ n < number, FieldForm n t) skipped ∧
    SearchEnds number found r'.bytes

/-- A search ends where it is, or skips one field and goes on. -/
theorem searched_iff {number : Nat} {found : Bool} {r r' : Region} :
    Searched number found r r' ↔
      r' = r ∧ SearchEnds number found r.bytes ∨
      ∃ front r₁, r.Took front r₁ ∧ (∃ n < number, FieldForm n front) ∧
        Searched number found r₁ r' := by
  constructor
  · rintro ⟨_, htook, (_ | ⟨h, hback⟩), hends⟩
    · cases htook.eq_of_nil
      exact Or.inl ⟨rfl, hends⟩
    · obtain ⟨r₁, hfront, hrest⟩ := htook.exists_of_append
      exact Or.inr ⟨_, r₁, hfront, h, _, hrest, hback, hends⟩
  · rintro (⟨rfl, hends⟩ | ⟨front, r₁, hfront, h, skipped, htook, hmany, hends⟩)
    · exact ⟨[], .nil r', .nil, hends⟩
    · exact ⟨front ++ skipped, hfront.trans htook, .cons h hmany, hends⟩

/-- What is taken from a region begins with its first byte, so that is where the tag is. -/
theorem Region.Took.ofByte_head {r r' : Region} {tag : Tag} {contents front rest : List UInt8}
    {b : UInt8} (htook : r.Took front r') (hform : ElementForm tag contents front)
    (hb : r.bytes = b :: rest) : Tag.ofByte b = .ok tag ∧ r'.bytes.length ≤ rest.length := by
  obtain ⟨b', rest', rfl, htag⟩ := hform.exists_cons
  have hbytes := htook.bytes
  rw [hb, List.cons_append, List.cons.injEq] at hbytes
  rw [hbytes.1, hbytes.2, List.length_append]
  exact ⟨htag, Nat.le_add_left _ _⟩

/-- In front of anything that is not skipped, a search ends. -/
theorem searched_iff_of_not_skipped {number : Nat} {found : Bool} {r r' : Region}
    (h : ∀ front r₁, r.Took front r₁ → ¬∃ n < number, FieldForm n front) :
    Searched number found r r' ↔ r' = r ∧ SearchEnds number found r.bytes := by
  rw [searched_iff]
  refine or_iff_left ?_
  rintro ⟨front, r₁, htook, hfield, -⟩
  exact h front r₁ htook hfield

theorem searched_iff_of_nil {number : Nat} {found : Bool} {r r' : Region} (hb : r.bytes = []) :
    Searched number found r r' ↔ false = found ∧ r = r' := by
  rw [searched_iff_of_not_skipped]
  · rw [hb, SearchEnds, and_comm, eq_comm, eq_comm (a := r')]
  · rintro front r₁ htook ⟨n, -, c, contents, hform⟩
    obtain ⟨b, rest, rfl, -⟩ := hform.exists_cons
    have hbytes := htook.bytes
    rw [hb] at hbytes
    cases hbytes

/-- In front of a tag that is not skipped, a search ends. -/
theorem searched_iff_of_ends {number : Nat} {found : Bool} {r r' : Region} {tag : Tag} {b : UInt8}
    {rest : List UInt8} (hb : r.bytes = b :: rest) (htag : Tag.ofByte b = .ok tag)
    (hge : ∀ n ∈ tag.fieldNumber?, number ≤ n) :
    Searched number found r r' ↔ (tag.fieldNumber? == some number) = found ∧ r = r' := by
  rw [searched_iff_of_not_skipped]
  · rw [hb, and_comm, eq_comm]
    refine and_congr_left fun _ ↦ ⟨?_, fun h ↦ ⟨tag, htag, hge, h.symm⟩⟩
    rintro ⟨tag', htag', -, h⟩
    rw [htag, Except.ok.injEq] at htag'
    rw [htag', h]
  · rintro front r₁ htook ⟨n, hlt, hfield⟩
    obtain ⟨tag', contents, hn, hform⟩ := fieldForm_iff.mp hfield
    have htag' := (htook.ofByte_head hform hb).1
    rw [htag, Except.ok.injEq] at htag'
    exact absurd hlt (Nat.not_lt.mpr (hge n (htag' ▸ hn)))

/-- In front of a field with a smaller number, a search skips the field. -/
theorem searched_iff_of_skips {number n : Nat} {found : Bool} {r r' : Region} {tag : Tag}
    {b : UInt8} {rest : List UInt8} (hb : r.bytes = b :: rest) (htag : Tag.ofByte b = .ok tag)
    (hn : tag.fieldNumber? = some n) (hlt : n < number) :
    Searched number found r r' ↔
      ∃ contents front r₁, r.Took front r₁ ∧ ElementForm tag contents front ∧
        Searched number found r₁ r' := by
  rw [searched_iff]
  constructor
  · rintro (⟨rfl, hends⟩ | ⟨front, r₁, htook, ⟨m, -, hfield⟩, hrest⟩)
    · rw [hb] at hends
      obtain ⟨tag', htag', hge, -⟩ := hends
      rw [htag, Except.ok.injEq] at htag'
      exact absurd (hge n (htag' ▸ hn)) (Nat.not_le.mpr hlt)
    · obtain ⟨tag', contents, -, hform⟩ := fieldForm_iff.mp hfield
      have htag' := (htook.ofByte_head hform hb).1
      rw [htag, Except.ok.injEq] at htag'
      exact ⟨contents, front, r₁, htook, htag' ▸ hform, hrest⟩
  · rintro ⟨contents, front, r₁, htook, hform, hrest⟩
    exact Or.inr ⟨front, r₁, htook, ⟨n, hlt, fieldForm_iff.mpr ⟨tag, contents, hn, hform⟩⟩, hrest⟩

/-- In front of a byte that is no tag, there is nothing to search. -/
theorem exists_tag_of_searched {number : Nat} {found : Bool} {r r' : Region} {b : UInt8}
    {rest : List UInt8} (hb : r.bytes = b :: rest) (h : Searched number found r r') :
    ∃ tag, Tag.ofByte b = .ok tag := by
  obtain ⟨rfl, hends⟩ | ⟨front, r₁, htook, ⟨n, -, c, contents, hform⟩, -⟩ := searched_iff.mp h
  · rw [hb] at hends
    obtain ⟨tag, htag, -⟩ := hends
    exact ⟨tag, htag⟩
  · exact ⟨_, (htook.ofByte_head hform hb).1⟩

/-- What the search does in front of a tag depends on the number of the field only. -/
theorem skipToField_succ_eq_ok_iff {number fuel : Nat} {b : UInt8} {rest : List UInt8}
    {r : Region} {x : Bool × Region} (hb : r.bytes = b :: rest) :
    skipToField number (fuel + 1) r = .ok x ↔ ∃ tag, Tag.ofByte b = .ok tag ∧
      (match tag.fieldNumber? with
      | some n => if n < number then any >>= fun _ ↦ skipToField number fuel else pure (n == number)
      | none => pure false : Decoder Bool) r = .ok x := by
  rw [skipToField, peek?_bind, hb, List.head?_cons]
  simp only [tagOfByte_bind_eq_ok_iff]
  refine exists_congr fun tag ↦ and_congr_right fun _ ↦ ?_
  cases tag <;> rfl

/-- **What the search for a field skips.**  Every field that is skipped has at least one byte, and
the induction is on the number of fields that may still be skipped. -/
theorem skipToField_eq_ok_iff {number fuel : Nat} {r r' : Region} {found : Bool}
    (hfuel : r.bytes.length ≤ fuel) :
    skipToField number fuel r = .ok (found, r') ↔ Searched number found r r' := by
  induction fuel generalizing r with
  | zero =>
    rw [searched_iff_of_nil (List.length_eq_zero_iff.mp (Nat.le_zero.mp hfuel))]
    exact pure_eq_ok_iff
  | succ fuel ih =>
    cases hb : r.bytes with
    | nil =>
      rw [skipToField, peek?_bind, hb, searched_iff_of_nil hb]
      exact pure_eq_ok_iff
    | cons b rest =>
      rw [hb, List.length_cons, Nat.add_le_add_iff_right] at hfuel
      rw [skipToField_succ_eq_ok_iff hb]
      have htag : Searched number found r r' ↔
          ∃ tag, Tag.ofByte b = .ok tag ∧ Searched number found r r' :=
        ⟨fun h ↦ (exists_tag_of_searched hb h).imp fun tag htag ↦ ⟨htag, h⟩, fun ⟨_, _, h⟩ ↦ h⟩
      rw [htag]
      refine exists_congr fun tag ↦ and_congr_right fun htag ↦ ?_
      cases hn : tag.fieldNumber? with
      | none =>
        rw [searched_iff_of_ends hb htag (by simp [hn]), hn]
        exact pure_eq_ok_iff
      | some n =>
        dsimp only
        split
        · rename_i hlt
          rw [searched_iff_of_skips hb htag hn hlt, bind_eq_ok_iff]
          constructor
          · rintro ⟨a, r₁, hany, hskip⟩
            obtain ⟨front, htook, hform⟩ := (reads_any r a r₁).mp hany
            obtain ⟨htag', hlen⟩ := htook.ofByte_head hform hb
            rw [htag, Except.ok.injEq] at htag'
            exact ⟨a.2, front, r₁, htook, htag' ▸ hform, (ih (hlen.trans hfuel)).mp hskip⟩
          · rintro ⟨contents, front, r₁, htook, hform, hrest⟩
            have hlen := (htook.ofByte_head hform hb).2
            exact ⟨(tag, contents), r₁, (reads_any _ _ _).mpr ⟨front, htook, hform⟩,
              (ih (hlen.trans hfuel)).mpr hrest⟩
        · rename_i hge
          rw [searched_iff_of_ends hb htag (by simpa [hn] using hge), hn]
          exact pure_eq_ok_iff

/-! ## The field with a bit string -/

/-- The reader of the field, once it was found: a bit string behind any primitive tag. -/
def taggedBitString : Decoder (Option (Option (List UInt8))) := do
  let h ← header
  let contents ← bitStringContents h.length
  if h.tag.isConstructed then fail (.notCanonical h.tag) else return some contents

theorem reads_taggedBitString :
    Reads taggedBitString fun t value ↦ ∃ tag contents bits, ElementForm tag contents t ∧
      BitStringForm contents bits ∧ ¬tag.isConstructed ∧ value = some bits := by
  refine (reads_header.bind fun h ↦ (reads_bitStringContents h.length).bind fun contents ↦
    Reads.refuse fun _ ↦ reads_pure (some contents)).congr fun t value ↦ ?_
  constructor
  · rintro ⟨front, _, ⟨tag, n⟩, rfl, hform, contents, _, bits, rfl, ⟨rfl, hbits⟩, hprimitive, rfl,
      rfl⟩
    exact ⟨tag, contents, bits, ⟨front, by rw [List.append_nil], hform⟩, hbits, hprimitive, rfl⟩
  · rintro ⟨tag, contents, bits, ⟨front, rfl, hform⟩, hbits, hprimitive, rfl⟩
    exact ⟨front, contents, ⟨tag, contents.length⟩, rfl, hform, contents, [], bits,
      (List.append_nil _).symm, ⟨rfl, hbits⟩, hprimitive, rfl, rfl⟩

/-- What the reader of a numbered bit string takes, and what follows: fields with smaller numbers,
and then the field; or, if it is not there, anything that ends the search. -/
def BitStringFieldForm (number : Nat) (bytes next : List UInt8) :
    Option (Option (List UInt8)) → Prop
  | none => Many (fun t ↦ ∃ n < number, FieldForm n t) bytes ∧ SearchEnds number false next
  | some bits => ∃ skipped front contents, bytes = skipped ++ front ∧
      Many (fun t ↦ ∃ n < number, FieldForm n t) skipped ∧
      ElementForm (.contextSpecific false number) contents front ∧ BitStringForm contents bits

/-- A search ends with success in front of an element exactly if that has the number. -/
theorem searchEnds_true_iff {number : Nat} {tag : Tag} {contents bytes next : List UInt8}
    (hform : ElementForm tag contents bytes) :
    SearchEnds number true (bytes ++ next) ↔ tag.fieldNumber? = some number := by
  obtain ⟨b, rest, rfl, htag⟩ := hform.exists_cons
  rw [List.cons_append, SearchEnds]
  constructor
  · rintro ⟨tag', htag', -, hfound⟩
    rw [htag, Except.ok.injEq] at htag'
    rw [htag']
    exact eq_of_beq hfound.symm
  · intro hn
    exact ⟨tag, htag, by simp [hn], by simp [hn]⟩

/-- Where a search ends without success, there is no field that it would skip or find. -/
theorem SearchEnds.not_fieldForm {number n : Nat} {front bytes : List UInt8}
    (h : SearchEnds number false bytes) (hfront : front <+: bytes) (hn : n ≤ number) :
    ¬FieldForm n front := by
  intro hform
  obtain ⟨tag, contents, hnumber, hform⟩ := fieldForm_iff.mp hform
  obtain ⟨b, rest, rfl, htag⟩ := hform.exists_cons
  obtain ⟨next, rfl⟩ := hfront
  obtain ⟨tag', htag', hge, hfound⟩ := h
  rw [htag, Except.ok.injEq] at htag'
  subst htag'
  have heq : n = number := le_antisymm hn (hge n hnumber)
  simp [hnumber, heq] at hfound

/-- **What the reader of a numbered bit string takes.** -/
theorem readsBefore_bitStringField (number : Nat) :
    ReadsBefore (bitStringField number) (BitStringFieldForm number) := by
  intro r value r'
  have hstep : bitStringField number r =
      (skipToField number r.bytes.length >>= fun found ↦
        if found then taggedBitString else pure none) r := rfl
  rw [hstep, bind_eq_ok_iff]
  simp only [skipToField_eq_ok_iff le_rfl]
  constructor
  · rintro ⟨found, r₁, ⟨skipped, hskipped, hmany, hends⟩, h⟩
    cases found with
    | false =>
      obtain ⟨rfl, rfl⟩ := pure_eq_ok_iff.mp h
      exact ⟨skipped, hskipped, hmany, hends⟩
    | true =>
      obtain ⟨front, htook, tag, contents, bits, hform, hbits, hprimitive, rfl⟩ :=
        (reads_taggedBitString r₁ value r').mp h
      rw [htook.bytes, searchEnds_true_iff hform] at hends
      have htag := Tag.eq_of_fieldNumber? hends hprimitive
      exact ⟨skipped ++ front, hskipped.trans htook, skipped, front, contents, rfl, hmany,
        htag ▸ hform, hbits⟩
  · rintro ⟨taken, htook, hform⟩
    cases value with
    | none => exact ⟨false, r', ⟨taken, htook, hform⟩, rfl⟩
    | some bits =>
      obtain ⟨skipped, front, contents, rfl, hmany, hform, hbits⟩ := hform
      obtain ⟨r₁, hskipped, hfront⟩ := htook.exists_of_append
      refine ⟨true, r₁, ⟨skipped, hskipped, hmany, ?_⟩, ?_⟩
      · rw [hfront.bytes, searchEnds_true_iff hform]
        rfl
      · exact (reads_taggedBitString r₁ _ r').mpr
          ⟨front, hfront, _, contents, bits, hform, hbits, Bool.false_ne_true, rfl⟩

/-! ## Fields up to the end -/

theorem reads_field : Reads field fun t _ ↦ WrapperForm t := by
  refine (reads_header.bind (H := fun h t _ ↦ (∃ n, h.tag = .contextSpecific true n) ∧
    t.length = h.length ∧ ∃ tag inner, ElementForm tag inner t) fun h ↦ ?_).congr fun t _ ↦ ?_
  · split
    · rename_i n htag
      refine ((reads_any.readsWhole.within h.length).bind fun a ↦ reads_pure ()).congr fun t _ ↦ ?_
      constructor
      · rintro ⟨inner, _, a, rfl, ⟨hlen, hform⟩, rfl, -⟩
        rw [List.append_nil]
        exact ⟨⟨n, htag⟩, hlen, a.1, a.2, hform⟩
      · rintro ⟨-, hlen, tag, inner, hform⟩
        exact ⟨t, [], (tag, inner), (List.append_nil t).symm, ⟨hlen, hform⟩, rfl, rfl⟩
    · rename_i hne
      exact (reads_fail _).congr fun t _ ↦ ⟨False.elim, fun ⟨⟨n, hn⟩, _⟩ ↦ hne n hn⟩
  · constructor
    · rintro ⟨front, contents, ⟨_, _⟩, rfl, hform, ⟨n, rfl⟩, rfl, hinner⟩
      exact ⟨n, contents, ⟨front, rfl, hform⟩, hinner⟩
    · rintro ⟨n, contents, ⟨front, rfl, hform⟩, hinner⟩
      exact ⟨front, contents, _, rfl, hform, ⟨n, rfl⟩, rfl, hinner⟩

/-- Each field takes at least one byte, and the induction is on the number of fields that may still
be read. -/
theorem exists_fields_eq_ok_iff {fuel : Nat} {r : Region} (hfuel : r.bytes.length ≤ fuel) :
    (∃ r', fields fuel r = .ok ((), r') ∧ r'.bytes = []) ↔ Many WrapperForm r.bytes := by
  induction fuel generalizing r with
  | zero =>
    have hb := List.length_eq_zero_iff.mp (Nat.le_zero.mp hfuel)
    rw [hb]
    exact ⟨fun _ ↦ .nil, fun _ ↦ ⟨r, rfl, hb⟩⟩
  | succ fuel ih =>
    cases hb : r.bytes with
    | nil =>
      refine ⟨fun _ ↦ .nil, fun _ ↦ ⟨r, ?_, hb⟩⟩
      rw [fields, isFinished_bind, hb]
      rfl
    | cons b rest =>
      rw [hb, List.length_cons, Nat.add_le_add_iff_right] at hfuel
      have hstep : fields (fuel + 1) r = (located field >>= fun _ ↦ fields fuel) r := by
        rw [fields, isFinished_bind, hb]
        rfl
      rw [hstep, ← hb]
      constructor
      · rintro ⟨r', h, hr⟩
        obtain ⟨_, r₁, hfield, hrest⟩ := bind_eq_ok_iff.mp h
        obtain ⟨front, htook, hform⟩ := (reads_field.located r () r₁).mp hfield
        have ⟨n, contents, helement, _⟩ := hform
        have hlen := (htook.ofByte_head helement hb).2
        rw [htook.bytes]
        exact .cons hform ((ih (hlen.trans hfuel)).mp ⟨r', hrest, hr⟩)
      · intro h
        obtain hnil | ⟨front, back, hsplit, hform, hback⟩ := many_iff.mp h
        · rw [hb] at hnil
          cases hnil
        · have htook : r.Took front ⟨r.start, r.offset + front.length, back⟩ := ⟨rfl, rfl, hsplit⟩
          have ⟨n, contents, helement, _⟩ := hform
          have hlen := (htook.ofByte_head helement hb).2
          obtain ⟨r', hrest, hr⟩ := (ih (hlen.trans hfuel)).mpr hback
          exact ⟨r', bind_eq_ok_iff.mpr ⟨(), _, (reads_field.located r () _).mpr
            ⟨front, htook, hform⟩, hrest⟩, hr⟩

/-- **What the reader of fields reads**, given as many rounds as there are bytes. -/
theorem readsWhole_fields {α : Type} (a : α) :
    ReadsWhole (do
      let fuel ← fun r ↦ .ok (r.bytes.length, r)
      fields fuel
      return a) fun t b ↦ Many WrapperForm t ∧ a = b := by
  have hfields : ReadsWhole (fun r ↦ fields r.bytes.length r) fun t _ ↦ Many WrapperForm t :=
    fun _ _ ↦ exists_fields_eq_ok_iff le_rfl
  intro r b
  refine Iff.trans (hfields.bind_pure (fun _ ↦ a) r b) ?_
  exact ⟨fun ⟨_, h⟩ ↦ h, fun h ↦ ⟨(), h⟩⟩

end HexSigner.Der
