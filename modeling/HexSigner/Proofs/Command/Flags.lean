import HexSigner.Proofs.Command.Arguments

/-!
# What a flag sets

Arguments that can be read consist of items in one way only (`flatMap_arguments_inj`), so it makes
sense to ask for the last item with a given flag.  The value under a name is the value of the last
item whose flag goes by that name (`value?_ofItems_eq_some_iff`).

A flag goes by the name that is left without the dashes in front, and these are taken away in pairs
as long as there are any.  So the flags for a name are the name with two dashes in front, or four,
or six (`nameOf_eq_iff`), and an option is set by each of them (`option_set_by_last_flag`).  Only
two are meant.
-/

set_option autoImplicit false

namespace HexSigner.Command

namespace Options

/-! ## Flags and names -/

/-- The flag for a name, with pairs of dashes in front that it does not need. -/
def spelled (extra : Nat) (name : String) : String :=
  String.ofList (List.replicate (2 * (extra + 1)) '-' ++ name.toList)

theorem spelled_zero (name : String) : spelled 0 name = "--" ++ name := by
  rw [← String.toList_inj]
  simp [spelled, List.replicate]

theorem length_spelled (extra : Nat) (name : String) :
    (spelled extra name).length = 2 * (extra + 1) + name.length := by
  rw [spelled, String.length_ofList, List.length_append, List.length_replicate,
    String.length_toList]

theorem exists_replicate_append_withoutDashes (cs : List Char) :
    ∃ n, cs = List.replicate (2 * n) '-' ++ withoutDashes cs := by
  induction cs using withoutDashes.induct with
  | case1 cs ih =>
    obtain ⟨n, hn⟩ := ih
    refine ⟨n + 1, ?_⟩
    rw [withoutDashes, Nat.mul_succ, List.replicate_succ, List.replicate_succ]
    exact congrArg ('-' :: '-' :: ·) hn
  | case2 cs hdashes => exact ⟨0, by rw [withoutDashes.eq_2 cs hdashes]; rfl⟩

theorem withoutDashes_eq_self {cs : List Char} (h : ['-', '-'].isPrefixOf cs = false) :
    withoutDashes cs = cs := by
  refine withoutDashes.eq_2 cs fun rest hcs ↦ ?_
  subst hcs
  simp at h

theorem withoutDashes_replicate_append (n : Nat) (cs : List Char) :
    withoutDashes (List.replicate (2 * n) '-' ++ cs) = withoutDashes cs := by
  induction n with
  | zero => rfl
  | succ n ih =>
    rw [Nat.mul_succ, List.replicate_succ, List.replicate_succ, List.cons_append,
      List.cons_append, withoutDashes]
    exact ih

section Names

variable {name : String} (hname : isFlag name = false)
include hname

theorem nameOf_spelled (extra : Nat) : nameOf (spelled extra name) = name := by
  rw [nameOf, spelled, String.toList_ofList, withoutDashes_replicate_append,
    withoutDashes_eq_self hname, String.ofList_toList]

/-- **The flags for a name are the name with pairs of dashes in front.** -/
theorem nameOf_eq_iff {flag : String} (hflag : isFlag flag = true) :
    nameOf flag = name ↔ ∃ extra, flag = spelled extra name := by
  constructor
  · rintro rfl
    obtain ⟨n, hn⟩ := exists_replicate_append_withoutDashes flag.toList
    cases n with
    | zero =>
      -- Without dashes in front, a flag would be its own name, and names are no flags.
      rw [Nat.mul_zero, List.replicate_zero, List.nil_append] at hn
      rw [nameOf, ← hn, String.ofList_toList, hflag] at hname
      cases hname
    | succ extra =>
      refine ⟨extra, ?_⟩
      rw [spelled, nameOf, String.toList_ofList, ← hn, String.ofList_toList]
  · rintro ⟨extra, rfl⟩
    exact nameOf_spelled hname extra

end Names

/-! ## The last pair -/

/-- The flag of an item that has one. -/
def Item.flag? : Item → Option String
  | .json => none
  | .pair flag _ _ _ => some flag

theorem Item.isFlag_of_mem_flag? {i : Item} {flag : String} (h : flag ∈ i.flag?) :
    isFlag flag = true := by
  cases i with
  | json => cases h
  | pair _ _ flagged _ =>
    cases h
    exact flagged

/-- No item has a flag with the property `P`. -/
def NoPair (P : String → Prop) (items : List Item) : Prop :=
  ∀ i ∈ items, ∀ flag ∈ i.flag?, ¬P flag

/-- The last item whose flag has the property `P` gives this value. -/
inductive LastPair (P : String → Prop) : List Item → String → Prop
  | here {flag value : String} {flagged : isFlag flag = true} {ne_json : flag ≠ "--json"}
      {items : List Item} (hflag : P flag) (hitems : NoPair P items) :
      LastPair P (.pair flag value flagged ne_json :: items) value
  | there {value : String} {items : List Item} (i : Item) (h : LastPair P items value) :
      LastPair P (i :: items) value

/-- A flag has to be long enough for its name. -/
theorem noPair_spelled_of_short {items : List Item} {name : String} {k : Nat}
    (h : ∀ i ∈ items, ∀ flag ∈ i.flag?, flag.length < 2 * (k + 1) + name.length) :
    NoPair (fun flag ↦ ∃ extra, flag = spelled (extra + k) name) items := by
  rintro i hi flag hflag ⟨extra, rfl⟩
  have hlt := h i hi _ hflag
  rw [length_spelled] at hlt
  omega

section Congr

variable {P Q : String → Prop} {items : List Item}

theorem NoPair.of_imp (h : ∀ i ∈ items, ∀ flag ∈ i.flag?, Q flag → P flag)
    (hitems : NoPair P items) : NoPair Q items :=
  fun i hi flag hflag hQ ↦ hitems i hi flag hflag (h i hi flag hflag hQ)

/-- Which pair is the last one depends on the flags of the items only. -/
theorem LastPair.of_iff {value : String}
    (h : ∀ i ∈ items, ∀ flag ∈ i.flag?, (P flag ↔ Q flag)) (hlast : LastPair P items value) :
    LastPair Q items value := by
  induction hlast with
  | here hflag hitems =>
    rw [List.forall_mem_cons] at h
    exact .here ((h.1 _ rfl).mp hflag)
      (hitems.of_imp fun i hi flag hflag ↦ (h.2 i hi flag hflag).mpr)
  | there i _ ih => exact .there i (ih (List.forall_mem_cons.mp h).2)

end Congr

/-! ## Values -/

theorem Item.value?_options_pair (flag value : String) (flagged : isFlag flag = true)
    (ne_json : flag ≠ "--json") (name : String) :
    (Item.pair flag value flagged ne_json).options.value? name =
      if nameOf flag = name then some value else none := by
  by_cases h : nameOf flag = name
  · simp [options, value?, h]
  · have hne : (name == nameOf flag) = false := beq_eq_false_iff_ne.mpr (Ne.symm h)
    simp [options, value?, h, hne]

theorem value?_ofItems_cons (i : Item) (items : List Item) (name : String) :
    (ofItems (i :: items)).value? name =
      ((ofItems items).value? name).or (i.options.value? name) :=
  value?_followedBy i.options (ofItems items) name

theorem value?_ofItems_eq_none_iff {items : List Item} {name : String} :
    (ofItems items).value? name = none ↔ NoPair (nameOf · = name) items := by
  induction items with
  | nil => exact ⟨fun _ ↦ nofun, fun _ ↦ rfl⟩
  | cons i items ih =>
    rw [value?_ofItems_cons, Option.or_eq_none_iff, ih, NoPair, NoPair, List.forall_mem_cons,
      and_comm]
    refine and_congr_left fun _ ↦ ?_
    cases i with
    | json => exact ⟨fun _ ↦ nofun, fun _ ↦ rfl⟩
    | pair flag value flagged ne_json =>
      rw [Item.value?_options_pair]
      simp [Item.flag?]

/-- **The value under a name is that of the last item whose flag goes by the name.** -/
theorem value?_ofItems_eq_some_iff {items : List Item} {name value : String} :
    (ofItems items).value? name = some value ↔ LastPair (nameOf · = name) items value := by
  constructor
  · intro h
    induction items with
    | nil => cases h
    | cons i items ih =>
      rw [value?_ofItems_cons] at h
      cases hlater : (ofItems items).value? name with
      | some later =>
        rw [hlater, Option.some_or] at h
        exact .there i (ih (hlater.trans h))
      | none =>
        rw [hlater, Option.none_or] at h
        cases i with
        | json => cases h
        | pair flag value' flagged ne_json =>
          rw [Item.value?_options_pair] at h
          split at h
          · next hflag =>
            cases h
            exact .here hflag (value?_ofItems_eq_none_iff.mp hlater)
          · cases h
  · intro h
    induction h with
    | here hflag hitems =>
      rw [value?_ofItems_cons, value?_ofItems_eq_none_iff.mpr hitems, Option.none_or,
        Item.value?_options_pair, if_pos hflag]
    | there i _ ih => rw [value?_ofItems_cons, ih, Option.some_or]

/-! ## Reading -/

/-- The arguments of an item show where it ends. -/
theorem Item.arguments_append_inj {i i' : Item} {rest rest' : List String}
    (h : i.arguments ++ rest = i'.arguments ++ rest') : i = i' ∧ rest = rest' := by
  cases i with
  | json =>
    cases i' with
    | json => exact ⟨rfl, List.append_cancel_left h⟩
    | pair _ _ _ ne_json => exact absurd (List.cons.inj h).1.symm ne_json
  | pair flag value flagged ne_json =>
    cases i' with
    | json => exact absurd (List.cons.inj h).1 ne_json
    | pair flag' value' flagged' ne_json' =>
      simp only [arguments, List.cons_append, List.nil_append, List.cons.injEq] at h
      obtain ⟨rfl, rfl, hrest⟩ := h
      exact ⟨rfl, hrest⟩

/-- **Arguments consist of items in one way only.** -/
theorem flatMap_arguments_inj {items items' : List Item}
    (h : items.flatMap Item.arguments = items'.flatMap Item.arguments) : items = items' := by
  induction items generalizing items' with
  | nil =>
    cases items' with
    | nil => rfl
    | cons i items' => cases i <;> cases h
  | cons i items ih =>
    cases items' with
    | nil => cases i <;> cases h
    | cons i' items' =>
      rw [List.flatMap_cons, List.flatMap_cons] at h
      obtain ⟨rfl, hrest⟩ := Item.arguments_append_inj h
      rw [ih hrest]

end Options

section Required

variable {o : Options} {name : String} {items : List Options.Item}

theorem required_eq_ok_iff {value : String} :
    required o name = .ok value ↔ o.value? name = some value := by
  rw [required]
  cases o.value? name <;> simp

theorem required_eq_missing_iff :
    required o name = .error (.missingOption name) ↔ o.value? name = none := by
  rw [required]
  cases o.value? name <;> simp

/-- An option that is required has the value of the last item with one of some flags, and is missing
if there is no such item. -/
structure SetBy (o : Options) (name : String) (P : String → Prop) (items : List Options.Item) :
    Prop where
  ok_iff : ∀ value, required o name = .ok value ↔ Options.LastPair P items value
  missing_iff : required o name = .error (.missingOption name) ↔ Options.NoPair P items

theorem SetBy.of_iff {P Q : String → Prop}
    (h : ∀ i ∈ items, ∀ flag ∈ i.flag?, (P flag ↔ Q flag)) (hset : SetBy o name P items) :
    SetBy o name Q items where
  ok_iff value := (hset.ok_iff value).trans
    ⟨.of_iff h, .of_iff fun i hi flag hflag ↦ (h i hi flag hflag).symm⟩
  missing_iff := hset.missing_iff.trans
    ⟨.of_imp fun i hi flag hflag ↦ (h i hi flag hflag).mpr,
      .of_imp fun i hi flag hflag ↦ (h i hi flag hflag).mp⟩

theorem setBy_nameOf (items : List Options.Item) (name : String) :
    SetBy (Options.ofItems items) name (Options.nameOf · = name) items where
  ok_iff _ := required_eq_ok_iff.trans Options.value?_ofItems_eq_some_iff
  missing_iff := required_eq_missing_iff.trans Options.value?_ofItems_eq_none_iff

/-- **The last flag for a name sets the option.**  Arguments that can be read consist of items in
one way only, and under a name is the value of the last item whose flag is the name with any number
of pairs of dashes in front.  Where no flag has more than one pair, that flag is two dashes and the
name. -/
theorem option_set_by_last_flag {arguments : List String} (h : Options.parse arguments = .ok o) :
    ∃ items : List Options.Item,
      (∀ items', items'.flatMap Options.Item.arguments = arguments ↔ items' = items) ∧
      ∀ name, Options.isFlag name = false →
        SetBy o name (fun flag ↦ ∃ extra, flag = Options.spelled extra name) items ∧
        (Options.NoPair (fun flag ↦ ∃ extra, flag = Options.spelled (extra + 1) name) items →
          SetBy o name (· = "--" ++ name) items) := by
  obtain ⟨items, rfl, rfl⟩ := Options.parse_eq_ok_iff.mp h
  refine ⟨items, fun items' ↦ ⟨Options.flatMap_arguments_inj, fun h ↦ h ▸ rfl⟩, fun name hname ↦ ?_⟩
  have hset : SetBy (Options.ofItems items) name
      (fun flag ↦ ∃ extra, flag = Options.spelled extra name) items :=
    (setBy_nameOf items name).of_iff fun i _ flag hflag ↦
      Options.nameOf_eq_iff hname (Options.Item.isFlag_of_mem_flag? hflag)
  refine ⟨hset, fun hsingle ↦ hset.of_iff fun i hi flag hflag ↦ ?_⟩
  rw [← Options.spelled_zero]
  constructor
  · rintro ⟨extra, heq⟩
    cases extra with
    | zero => exact heq
    | succ extra => exact absurd ⟨extra, heq⟩ (hsingle i hi flag hflag)
  · exact fun heq ↦ ⟨0, heq⟩

/-- The names of all options are names that do not look like flags. -/
example : ∀ name ∈ ["public-key", "private-key", "signature", "digest", "config"],
    Options.isFlag name = false := by
  decide

/-- Values that look like flags are values, an odd dash makes another name of a flag, and the last
value counts. -/
theorem option_set_by_last_flag_flagValues :
    ∃ o, Options.parse
        ["--digest", "--json", "---digest", "00", "--json", "--digest", "--digest"] = .ok o ∧
      required o "digest" = .ok "--digest" ∧
      required o "signature" = .error (.missingOption "signature") := by
  let items : List Options.Item :=
    [.pair "--digest" "--json" (by decide) (by decide),
      .pair "---digest" "00" (by decide) (by decide), .json,
      .pair "--digest" "--digest" (by decide) (by decide)]
  have hparse : Options.parse
      ["--digest", "--json", "---digest", "00", "--json", "--digest", "--digest"] =
        .ok (Options.ofItems items) := by
    decide
  obtain ⟨items', hitems, hset⟩ := option_set_by_last_flag hparse
  obtain rfl : items = items' := (hitems items).mp rfl
  have hdigest : Options.NoPair
      (fun flag ↦ ∃ extra, flag = Options.spelled (extra + 1) "digest") items :=
    Options.noPair_spelled_of_short (by decide)
  have hsignature : Options.NoPair
      (fun flag ↦ ∃ extra, flag = Options.spelled (extra + 0) "signature") items :=
    Options.noPair_spelled_of_short (by decide)
  refine ⟨_, hparse, (((hset "digest" (by decide)).2 hdigest).ok_iff _).mpr ?_,
    (hset "signature" (by decide)).1.missing_iff.mpr hsignature⟩
  exact .there _ (.there _ (.there _ (.here rfl nofun)))

/-- **Four dashes set an option as well**, without a flag of two dashes anywhere. -/
theorem option_set_by_four_dashes :
    ∃ o, Options.parse ["----public-key", "00"] = .ok o ∧ required o "public-key" = .ok "00" ∧
      ∀ items : List Options.Item,
        items.flatMap Options.Item.arguments = ["----public-key", "00"] →
        Options.NoPair (· = "--" ++ "public-key") items ∧
        ¬SetBy o "public-key" (· = "--" ++ "public-key") items := by
  let items : List Options.Item := [.pair "----public-key" "00" (by decide) (by decide)]
  refine ⟨Options.ofItems items, by decide, rfl, fun items' hitems' ↦ ?_⟩
  obtain rfl : items' = items := Options.flatMap_arguments_inj hitems'
  have hnone : Options.NoPair (· = "--" ++ "public-key") items := by
    unfold Options.NoPair
    decide
  refine ⟨hnone, fun hset ↦ ?_⟩
  cases (hset.missing_iff.mpr hnone : required (Options.ofItems items) "public-key" = _)

end Required

end HexSigner.Command
