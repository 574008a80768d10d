import HexSigner.Proofs.Command.Flags

/-!
# Arguments that cannot be read

Which part an argument has depends on all those before it: what looks like a flag or like the switch
may be a value.  Reading takes items off the front as long as there are any, and `Stops` says what
is left when there are none: an argument that is no flag, or a flag with nothing behind it.

Arguments are items as far as possible in one way only (`isPrefix_of_stops`), so the argument at
which reading stops is determined, and the fault names it (`parse_eq_error_iff`).  What is behind an
argument that is no flag does not matter, and behind a flag without a value there is nothing.
-/

set_option autoImplicit false

namespace HexSigner.Command.Options

/-- Reading stops at the first of some arguments, and this is why. -/
inductive Stops : List String → Fault → Prop
  | unexpected {argument : String} (h : isFlag argument = false) (behind : List String) :
      Stops (argument :: behind) (.unexpected argument)
  | missingValue {flag : String} (flagged : isFlag flag = true) (ne_json : flag ≠ "--json") :
      Stops [flag] (.missingValue flag)

/-! ## Where reading stops -/

/-- Reading does not stop at an item. -/
theorem not_stops_item (i : Item) (rest : List String) (f : Fault) :
    ¬Stops (i.arguments ++ rest) f := by
  intro h
  cases i with
  | json =>
    cases h with
    | unexpected hflag => exact absurd hflag (by decide)
    | missingValue _ ne_json => exact ne_json rfl
  | pair flag value flagged ne_json =>
    cases h with
    | unexpected hflag => cases flagged.symm.trans hflag

/-- Where reading stops, nothing is read. -/
theorem parse_of_stops {rest : List String} {f : Fault} (h : Stops rest f) :
    parse rest = .error f := by
  cases h with
  | @unexpected argument hflag behind =>
    have hjson : argument ≠ "--json" := by
      rintro rfl
      exact absurd hflag (by decide)
    rw [parse.eq_def]
    simp [hjson, hflag]
  | missingValue flagged ne_json =>
    rw [parse.eq_def]
    simp [ne_json, flagged]

theorem parse_items_of_stops {items : List Item} {rest : List String} {f : Fault}
    (h : Stops rest f) : parse (items.flatMap Item.arguments ++ rest) = .error f := by
  rw [parse_items, parse_of_stops h]
  rfl

theorem exists_of_map_eq_error {ε α β : Type} {x : Except ε α} {g : α → β} {e : ε}
    (h : x.map g = .error e) : x = .error e := by
  cases x with
  | error e' => rw [Except.error.inj h]
  | ok a => cases h

theorem exists_stops_of_parse {arguments : List String} {f : Fault}
    (h : parse arguments = .error f) :
    ∃ (items : List Item) (rest : List String),
      arguments = items.flatMap Item.arguments ++ rest ∧ Stops rest f := by
  induction arguments using parse.induct with
  | case1 => cases h
  | case2 rest ih =>
    obtain ⟨items, left, rfl, hstops⟩ :=
      ih (exists_of_map_eq_error ((parse_item .json rest).symm.trans h))
    exact ⟨.json :: items, left, rfl, hstops⟩
  | case3 argument hjson hflag =>
    have hstops : Stops [argument] (.missingValue argument) := .missingValue hflag hjson
    cases (parse_of_stops hstops).symm.trans h
    exact ⟨[], [argument], rfl, hstops⟩
  | case4 argument hjson hflag value rest ih =>
    let item : Item := .pair argument value hflag hjson
    obtain ⟨items, left, rfl, hstops⟩ :=
      ih (exists_of_map_eq_error ((parse_item item rest).symm.trans h))
    exact ⟨item :: items, left, rfl, hstops⟩
  | case5 argument rest hjson hflag =>
    have hstops : Stops (argument :: rest) (.unexpected argument) :=
      .unexpected (Bool.eq_false_iff.mpr hflag) rest
    cases (parse_of_stops hstops).symm.trans h
    exact ⟨[], argument :: rest, rfl, hstops⟩

/-- **The fault is the one at which reading stops, behind some items.** -/
theorem parse_eq_error_iff {arguments : List String} {f : Fault} :
    parse arguments = .error f ↔
      ∃ (items : List Item) (rest : List String),
        arguments = items.flatMap Item.arguments ++ rest ∧ Stops rest f := by
  refine ⟨exists_stops_of_parse, ?_⟩
  rintro ⟨items, rest, rfl, hstops⟩
  exact parse_items_of_stops hstops

/-- **There are no further items where reading stops**, and no other ones before. -/
theorem isPrefix_of_stops {items items' : List Item} {rest rest' : List String} {f : Fault}
    (hstops : Stops rest f)
    (h : items.flatMap Item.arguments ++ rest = items'.flatMap Item.arguments ++ rest') :
    items' <+: items := by
  induction items' generalizing items with
  | nil => exact List.nil_prefix
  | cons i' items' ih =>
    rw [List.flatMap_cons, List.append_assoc] at h
    cases items with
    | nil =>
      rw [List.flatMap_nil, List.nil_append] at h
      exact absurd (h ▸ hstops) (not_stops_item i' _ f)
    | cons i items =>
      rw [List.flatMap_cons, List.append_assoc] at h
      obtain ⟨rfl, hrest⟩ := Item.arguments_append_inj h
      exact (List.prefix_cons_inj i).mpr (ih hrest)

/-! ## The switch -/

/-- The switch counts wherever it is an item. -/
theorem json_ofItems_iff (items : List Item) :
    (ofItems items).json = true ↔ Item.json ∈ items := by
  induction items with
  | nil => simp [ofItems]
  | cons i items ih =>
    rw [ofItems, followedBy, Bool.or_eq_true, ih, List.mem_cons]
    refine or_congr_left ?_
    cases i with
    | json => exact ⟨fun _ ↦ rfl, fun _ ↦ rfl⟩
    | pair => exact iff_of_false Bool.false_ne_true (by simp)

/-! ## The theorem -/

/-- **Arguments are read if they are items, and otherwise the first fault is named.**

* Arguments can be read exactly if they consist of items.
* Of those that do, the switch is on exactly if one of the items is the switch.
* Others begin with some items, as many as possible, and go on with an argument at which reading
  stops.  If it is no flag, it is reported as unexpected, whatever is behind it.  Otherwise it is a
  flag, but not the switch, and the last argument, and its value is reported as missing. -/
theorem parse_items_or_first_fault (arguments : List String) :
    ((∃ o, parse arguments = .ok o) ↔
      ∃ items : List Item, items.flatMap Item.arguments = arguments) ∧
    (∀ (items : List Item) (o : Options), items.flatMap Item.arguments = arguments →
      parse arguments = .ok o → (o.json = true ↔ Item.json ∈ items)) ∧
    ((¬∃ items : List Item, items.flatMap Item.arguments = arguments) →
      ∃ (items : List Item) (argument : String) (behind : List String),
        arguments = items.flatMap Item.arguments ++ argument :: behind ∧
        (∀ (items' : List Item) (rest' : List String),
          arguments = items'.flatMap Item.arguments ++ rest' → items' <+: items) ∧
        (isFlag argument = false ∧
            (∀ other : List String, ∃ f,
              parse (items.flatMap Item.arguments ++ argument :: other) = .error f ∧
                f.message = "Unexpected argument: " ++ argument) ∨
          isFlag argument = true ∧ argument ≠ "--json" ∧ behind = [] ∧
            ∃ f, parse arguments = .error f ∧ f.message = "Missing value for " ++ argument)) := by
  have hread : (∃ o, parse arguments = .ok o) ↔
      ∃ items : List Item, items.flatMap Item.arguments = arguments := by
    simp only [parse_eq_ok_iff]
    constructor
    · rintro ⟨o, items, rfl, -⟩
      exact ⟨items, rfl⟩
    · rintro ⟨items, rfl⟩
      exact ⟨ofItems items, items, rfl, rfl⟩
  refine ⟨hread, ?_, fun hunreadable ↦ ?_⟩
  · rintro items o rfl ho
    rw [parse_flatMap_arguments, Except.ok.injEq] at ho
    exact ho ▸ json_ofItems_iff items
  · cases hparse : parse arguments with
    | ok o => exact absurd (hread.mp ⟨o, hparse⟩) hunreadable
    | error f =>
      obtain ⟨items, rest, rfl, hstops⟩ := parse_eq_error_iff.mp hparse
      cases hstops with
      | @unexpected argument hflag behind =>
        exact ⟨items, argument, behind, rfl, fun _ _ ↦ isPrefix_of_stops (.unexpected hflag behind),
          .inl ⟨hflag, fun other ↦ ⟨_, parse_items_of_stops (.unexpected hflag other), rfl⟩⟩⟩
      | @missingValue flag flagged ne_json =>
        exact ⟨items, flag, [], rfl, fun _ _ ↦ isPrefix_of_stops (.missingValue flagged ne_json),
          .inr ⟨flagged, ne_json, rfl, _, rfl, rfl⟩⟩

/-- A value that looks like the switch does not switch anything on, and an argument behind it that
is no flag is reported, whatever follows. -/
theorem parse_items_or_first_fault_stray :
    (∃ o, parse ["--digest", "--json"] = .ok o ∧ o.json ≠ true) ∧
    (¬∃ items : List Item,
      items.flatMap Item.arguments = ["--digest", "--json", "00", "--json"]) ∧
    ∀ other : List String, ∃ f, parse ("--digest" :: "--json" :: "00" :: other) = .error f ∧
      f.message = "Unexpected argument: 00" := by
  let value : Item := .pair "--digest" "--json" (by decide) (by decide)
  obtain ⟨hread, hjson, -⟩ := parse_items_or_first_fault ["--digest", "--json"]
  obtain ⟨hread', -, hfault⟩ := parse_items_or_first_fault ["--digest", "--json", "00", "--json"]
  have hparse : parse ["--digest", "--json", "00", "--json"] = .error (.unexpected "00") := by
    decide
  have hunreadable : ¬∃ items : List Item,
      items.flatMap Item.arguments = ["--digest", "--json", "00", "--json"] := fun h ↦ by
    obtain ⟨o, ho⟩ := hread'.mpr h
    cases hparse.symm.trans ho
  refine ⟨?_, hunreadable, ?_⟩
  · obtain ⟨o, ho⟩ := hread.mpr ⟨[value], rfl⟩
    refine ⟨o, ho, fun h ↦ ?_⟩
    have hmem := (hjson [value] o rfl ho).mp h
    simp [value] at hmem
  · obtain ⟨items, argument, behind, hitems, -, ⟨-, hreport⟩ | ⟨hflag, hne, rfl, -⟩⟩ :=
      hfault hunreadable
    · obtain ⟨f, hf, hmessage⟩ := hreport behind
      rw [← hitems, hparse] at hf
      cases hf
      obtain rfl : "00" = argument := (String.append_right_inj _).mp hmessage
      obtain ⟨hfront, -⟩ :
          items.flatMap Item.arguments = ["--digest", "--json"] ∧ behind = ["--json"] := by
        simpa [List.cons_eq_append_iff] using hitems
      rw [hfront] at hreport
      exact hreport
    · -- the last argument is the switch, which never stops the reading
      refine absurd ?_ hne
      have hlast := congrArg List.getLast? hitems
      simpa using hlast.symm

end HexSigner.Command.Options
