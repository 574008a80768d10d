import HexSigner.Command.Run
import Mathlib.Data.List.Nodup

/-!
# Arguments, item by item

Arguments come in items: the switch for JSON, which is one argument, or a flag and its value, which
are two, whatever the value looks like.  The arguments that can be read are those that consist of
items (`Options.parse_eq_ok_iff`), and reading never looks behind an item that it has not reached.
So arguments that can be read may be followed by any others, and these decide alone whether the
whole can be read (`Options.parse_append`).  Of two values for one option the later one counts.

What a run does depends on its options only through the values that are found under their names and
through the switch (`Options.Alike`).  With at most one value for each name, the order of the items
has no part in either, and so no part in what comes of the run (`arguments_override_or_commute`).
-/

set_option autoImplicit false

namespace HexSigner.Command

namespace Options

/-! ## Items -/

/-- A part of the arguments that has a meaning of its own. -/
inductive Item where
  /-- The switch for JSON. -/
  | json
  /-- A flag and its value. -/
  | pair (flag value : String) (flagged : isFlag flag = true) (ne_json : flag ≠ "--json")

namespace Item

/-- The arguments of an item. -/
def arguments : Item → List String
  | json => ["--json"]
  | pair flag value _ _ => [flag, value]

/-- The name of the option that an item sets. -/
def name? : Item → Option String
  | json => none
  | pair flag _ _ _ => some (nameOf flag)

/-- The options of an item on its own. -/
def options : Item → Options
  | json => { json := true }
  | pair flag value _ _ => { values := [(nameOf flag, value)] }

end Item

/-- Options with later ones behind them. -/
def followedBy (o later : Options) : Options where
  values := later.values ++ o.values
  json := o.json || later.json

/-- The options of some items, one after the other. -/
def ofItems : List Item → Options
  | [] => {}
  | i :: items => i.options.followedBy (ofItems items)

theorem followedBy_assoc (o p q : Options) :
    (o.followedBy p).followedBy q = o.followedBy (p.followedBy q) := by
  simp [followedBy, Bool.or_assoc]

theorem empty_followedBy (o : Options) : ({} : Options).followedBy o = o := by simp [followedBy]

theorem followedBy_empty (o : Options) : o.followedBy {} = o := by simp [followedBy]

/-- The later options count where they have a value. -/
theorem value?_followedBy (o later : Options) (name : String) :
    (o.followedBy later).value? name = (later.value? name).or (o.value? name) :=
  List.lookup_append

/-! ## Reading -/

theorem exists_of_map_eq_ok {ε α β : Type} {x : Except ε α} {f : α → β} {b : β}
    (h : x.map f = .ok b) : ∃ a, x = .ok a ∧ f a = b := by
  cases x with
  | error e => cases h
  | ok a => exact ⟨a, rfl, Except.ok.inj h⟩

/-- An item is read as its options, in front of those that follow. -/
theorem parse_item (i : Item) (rest : List String) :
    parse (i.arguments ++ rest) = (parse rest).map i.options.followedBy := by
  cases i with
  | json =>
    have hjson : afterJson = followedBy { json := true } := by
      funext o
      simp [afterJson, followedBy]
    rw [Item.arguments, List.singleton_append, parse.eq_def, hjson]
    rfl
  | pair flag value flagged ne_json =>
    have hvalue :
        afterValue (nameOf flag) value = followedBy { values := [(nameOf flag, value)] } := by
      funext o
      simp [afterValue, followedBy]
    rw [Item.arguments, List.cons_append, List.singleton_append, parse.eq_def]
    simp only [if_neg ne_json, if_pos flagged, hvalue]
    rfl

theorem parse_items (items : List Item) (rest : List String) :
    parse (items.flatMap Item.arguments ++ rest) =
      (parse rest).map (ofItems items).followedBy := by
  induction items with
  | nil =>
    rw [List.flatMap_nil, List.nil_append, ofItems, funext empty_followedBy]
    cases parse rest <;> rfl
  | cons i items ih =>
    rw [List.flatMap_cons, List.append_assoc, parse_item, ih, ofItems,
      funext (followedBy_assoc i.options (ofItems items))]
    cases parse rest <;> rfl

theorem parse_flatMap_arguments (items : List Item) :
    parse (items.flatMap Item.arguments) = .ok (ofItems items) := by
  have h := parse_items items []
  rw [List.append_nil] at h
  rw [h, parse, Except.map, followedBy_empty]

theorem exists_items_of_parse {arguments : List String} {o : Options}
    (h : parse arguments = .ok o) :
    ∃ items : List Item, arguments = items.flatMap Item.arguments := by
  induction arguments using parse.induct generalizing o with
  | case1 => exact ⟨[], rfl⟩
  | case2 rest ih =>
    obtain ⟨later, hlater, -⟩ := exists_of_map_eq_ok ((parse_item .json rest).symm.trans h)
    obtain ⟨items, rfl⟩ := ih hlater
    exact ⟨.json :: items, rfl⟩
  | case3 argument hjson hflag => simp [parse.eq_def, hjson, hflag] at h
  | case4 argument hjson hflag value rest ih =>
    let item : Item := .pair argument value hflag hjson
    obtain ⟨later, hlater, -⟩ := exists_of_map_eq_ok ((parse_item item rest).symm.trans h)
    obtain ⟨items, rfl⟩ := ih hlater
    exact ⟨item :: items, rfl⟩
  | case5 argument rest hjson hflag => simp [parse.eq_def, hjson, hflag] at h

/-- **The arguments that can be read are those that consist of items.** -/
theorem parse_eq_ok_iff {arguments : List String} {o : Options} :
    parse arguments = .ok o ↔
      ∃ items : List Item, arguments = items.flatMap Item.arguments ∧ o = ofItems items := by
  constructor
  · intro h
    obtain ⟨items, rfl⟩ := exists_items_of_parse h
    rw [parse_flatMap_arguments, Except.ok.injEq] at h
    exact ⟨items, rfl, h.symm⟩
  · rintro ⟨items, rfl, rfl⟩
    exact parse_flatMap_arguments items

/-- **Arguments that can be read say nothing about whether those behind them can be read.** -/
theorem parse_append {front : List String} {o : Options} (h : parse front = .ok o)
    (back : List String) : parse (front ++ back) = (parse back).map o.followedBy := by
  obtain ⟨items, rfl, rfl⟩ := parse_eq_ok_iff.mp h
  exact parse_items items back

/-! ## Order -/

/-- Options that say the same. -/
structure Alike (o p : Options) : Prop where
  value?_eq : ∀ name, o.value? name = p.value? name
  json_eq : o.json = p.json

theorem Alike.refl (o : Options) : o.Alike o := ⟨fun _ ↦ rfl, rfl⟩

theorem Alike.trans {o p q : Options} (h : o.Alike p) (h' : p.Alike q) : o.Alike q where
  value?_eq name := (h.value?_eq name).trans (h'.value?_eq name)
  json_eq := h.json_eq.trans h'.json_eq

theorem Alike.followedBy {o p o' p' : Options} (h : o.Alike p) (h' : o'.Alike p') :
    (o.followedBy o').Alike (p.followedBy p') where
  value?_eq name := by
    rw [value?_followedBy, value?_followedBy, h.value?_eq, h'.value?_eq]
  json_eq := by
    rw [Options.followedBy, Options.followedBy, h.json_eq, h'.json_eq]

theorem Item.value?_options_eq_none {i : Item} {name : String} (h : i.name? ≠ some name) :
    i.options.value? name = none := by
  cases i with
  | json => rfl
  | pair flag value flagged ne_json =>
    have hne : (name == nameOf flag) = false :=
      beq_eq_false_iff_ne.mpr fun heq ↦ h (congrArg some heq.symm)
    simp [Item.options, value?, hne]

/-- Two items for different options may change places. -/
theorem alike_swap (i j : Item) (o : Options) (h : ∀ name ∈ i.name?, name ∉ j.name?) :
    (i.options.followedBy (j.options.followedBy o)).Alike
      (j.options.followedBy (i.options.followedBy o)) where
  value?_eq name := by
    simp only [value?_followedBy, Option.or_assoc]
    congr 1
    by_cases hi : i.name? = some name
    · rw [j.value?_options_eq_none (h name hi), Option.none_or, Option.or_none]
    · rw [i.value?_options_eq_none hi, Option.none_or, Option.or_none]
  json_eq := by
    simp only [followedBy]
    rw [Bool.or_left_comm]

/-- **The order of items for different options does not matter.** -/
theorem alike_of_perm {items items' : List Item} (h : items.Perm items')
    (hdistinct : (items.filterMap Item.name?).Nodup) : (ofItems items).Alike (ofItems items') := by
  induction h with
  | nil => exact .refl _
  | @cons i items items' _ ih =>
    have htail : (items.filterMap Item.name?).Nodup :=
      hdistinct.sublist ((List.sublist_cons_self i items).filterMap Item.name?)
    exact (Alike.refl i.options).followedBy (ih htail)
  | swap i j items =>
    refine alike_swap j i (ofItems items) fun name hj hi ↦ ?_
    rw [Option.mem_def] at hj hi
    simp [hi, hj] at hdistinct
  | trans h _ ih ih' =>
    exact (ih hdistinct).trans (ih' ((h.filterMap Item.name?).nodup_iff.mp hdistinct))

end Options

/-! ## Runs -/

section Run

variable {o p : Options}

theorem loadSettings_of_alike (s : Surroundings) (h : o.Alike p) :
    loadSettings s o = loadSettings s p := by
  rw [loadSettings, loadSettings, h.value?_eq]

theorem execute_of_alike (settings : SignatureSettings) (randomness : Except String (Octets 32))
    (command : String) (h : o.Alike p) :
    execute settings randomness command o = execute settings randomness command p := by
  have hrequired : required o = required p := by
    funext name
    rw [required, required, h.value?_eq]
  rw [execute.eq_def, execute.eq_def, hrequired]

theorem runWith_of_alike (s : Surroundings) (settings : Settings) (command : String)
    (h : o.Alike p) : runWith s settings command o = runWith s settings command p := by
  simp only [runWith, execute_of_alike settings.signature s.randomness command h, h.json_eq]

/-- **What comes of a run depends on nothing else that its options say.** -/
theorem run_of_alike (s : Surroundings) (command : String) {arguments arguments' : List String}
    (hparse : Options.parse arguments = .ok o) (hparse' : Options.parse arguments' = .ok p)
    (h : o.Alike p) : run s (command :: arguments) = run s (command :: arguments') := by
  simp only [run, runCommand, hparse, hparse', loadSettings_of_alike s h, runWith_of_alike s _ _ h]

/-- **Later arguments override earlier ones, and otherwise their order does not matter.**  Arguments
that can be read leave it to those behind them whether the whole can be read, and then give way to
them option by option.  Items with at most one value for each option may be given in any order: what
comes of the run is the same, be it an answer or a fault. -/
theorem arguments_override_or_commute :
    (∀ (front back : List String) (o : Options), Options.parse front = .ok o →
      (∀ f, Options.parse back = .error f → Options.parse (front ++ back) = .error f) ∧
      ∀ later, Options.parse back = .ok later → ∃ both, Options.parse (front ++ back) = .ok both ∧
        (∀ name, both.value? name = (later.value? name).or (o.value? name)) ∧
        both.json = (o.json || later.json)) ∧
    ∀ (s : Surroundings) (command : String) (items items' : List Options.Item),
      items.Perm items' → (items.filterMap Options.Item.name?).Nodup →
      run s (command :: items.flatMap Options.Item.arguments) =
        run s (command :: items'.flatMap Options.Item.arguments) := by
  refine ⟨fun front back o hfront ↦ ⟨fun f hback ↦ ?_, fun later hback ↦ ?_⟩, ?_⟩
  · rw [Options.parse_append hfront, hback]
    rfl
  · refine ⟨o.followedBy later, ?_, o.value?_followedBy later, rfl⟩
    rw [Options.parse_append hfront, hback]
    rfl
  · intro s command items items' hperm hdistinct
    exact run_of_alike s command (Options.parse_flatMap_arguments items)
      (Options.parse_flatMap_arguments items') (Options.alike_of_perm hperm hdistinct)

/-- A value that looks like a switch is overridden under another spelling of its flag, a flag
without a value is a fault behind it as well, and items around such a value may change places. -/
theorem arguments_override_or_commute_switch :
    (∃ both, Options.parse ["--digest", "--json", "----digest", "00", "--json"] = .ok both ∧
      both.value? "digest" = some "00" ∧ both.json = true) ∧
    Options.parse ["--digest", "--json", "--signature"] = .error (.missingValue "--signature") ∧
    ∀ s, run s ["sign", "--private-key", "00", "--json", "--digest", "--json"] =
      run s ["sign", "--digest", "--json", "--private-key", "00", "--json"] := by
  have hfront : Options.parse ["--digest", "--json"] =
      .ok { values := [("digest", "--json")] } := by
    decide
  have hback : Options.parse ["----digest", "00", "--json"] =
      .ok { values := [("digest", "00")], json := true } := by
    decide
  obtain ⟨both, hparse, hvalue, hjson⟩ := (arguments_override_or_commute.1 _ _ _ hfront).2 _ hback
  let key : Options.Item := .pair "--private-key" "00" (by decide) (by decide)
  let digest : Options.Item := .pair "--digest" "--json" (by decide) (by decide)
  refine ⟨⟨both, hparse, hvalue "digest", hjson⟩,
    (arguments_override_or_commute.1 _ ["--signature"] _ hfront).1 _ (by decide), fun s ↦ ?_⟩
  have hperm : ([key, .json] ++ [digest]).Perm ([digest] ++ [key, .json]) :=
    List.perm_append_comm
  exact arguments_override_or_commute.2 s "sign" _ _ hperm (by decide)

end Run

end HexSigner.Command
