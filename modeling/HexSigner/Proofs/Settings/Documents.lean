import HexSigner.Proofs.Json.Forms
import HexSigner.Proofs.Json.Reader
import HexSigner.Proofs.Toml.Forms
import HexSigner.Proofs.Toml.Reader
import HexSigner.Settings.Json
import HexSigner.Settings.Toml

/-!
# Settings are defaults with a document laid over them

Settings are two groups of two fields each, and every level of that is a structure that a document
is laid over.  What is expected of the document is said once (`Settings.kind`), and both formats do
what it says: JSON reads it (`Settings.reads`), and TOML takes it from its tables
(`Settings.extracts`).

So a document has the same settings in both formats: the values that it gives where it gives any,
and the defaults otherwise, whatever else it says and in whatever order.  A scalar that is no value
for its field is an error in both formats, and never a default.
-/

set_option autoImplicit false

namespace HexSigner

open Document

/-! ## What settings are expected to be -/

/-- The format that a tree names. -/
def LogFormat.ofTree? : Tree → Option LogFormat :=
  Tree.choice? [("text", .text), ("json", .json)]

/-- The policy that a tree names. -/
def VerificationPolicy.ofTree? : Tree → Option VerificationPolicy :=
  Tree.choice? [("standard", .standard), ("strict", .strict)]

/-- The slots of the settings of events. -/
def LogSettings.slots : List (Slot LogSettings) :=
  [.of "level" (.scalar Tree.text?) fun s level ↦ { s with level },
    .of "format" (.scalar LogFormat.ofTree?) fun s format ↦ { s with format }]

/-- The slots of the settings of signatures. -/
def SignatureSettings.slots : List (Slot SignatureSettings) :=
  [.of "verification" (.scalar VerificationPolicy.ofTree?) fun s verification ↦
      { s with verification },
    .of "diagnostics" (.scalar Tree.boolean?) fun s diagnostics ↦ { s with diagnostics }]

/-- The slots of all settings. -/
def Settings.slots : List (Slot Settings) :=
  [.of "logging" (.record LogSettings.slots {}) fun s logging ↦ { s with logging },
    .of "signature" (.record SignatureSettings.slots {}) fun s signature ↦ { s with signature }]

/-- What settings are expected to be. -/
def Settings.kind : Kind Settings := .record Settings.slots {}

theorem LogSettings.pairs :
    Pairs LogSettings.level (fun s level ↦ { s with level })
      LogSettings.format (fun s format ↦ { s with format }) :=
  ⟨fun _ _ ↦ rfl, fun _ _ ↦ rfl, fun _ _ ↦ rfl, fun _ _ ↦ rfl, fun ⟨_, _⟩ ⟨_, _⟩ h h' ↦ by
    cases h
    cases h'
    rfl⟩

theorem SignatureSettings.pairs :
    Pairs SignatureSettings.verification (fun s verification ↦ { s with verification })
      SignatureSettings.diagnostics (fun s diagnostics ↦ { s with diagnostics }) :=
  ⟨fun _ _ ↦ rfl, fun _ _ ↦ rfl, fun _ _ ↦ rfl, fun _ _ ↦ rfl, fun ⟨_, _⟩ ⟨_, _⟩ h h' ↦ by
    cases h
    cases h'
    rfl⟩

theorem Settings.pairs :
    Pairs Settings.logging (fun s logging ↦ { s with logging })
      Settings.signature (fun s signature ↦ { s with signature }) :=
  ⟨fun _ _ ↦ rfl, fun _ _ ↦ rfl, fun _ _ ↦ rfl, fun _ _ ↦ rfl, fun ⟨_, _⟩ ⟨_, _⟩ h h' ↦ by
    cases h
    cases h'
    rfl⟩

/-! ## Both formats expect the same -/

theorem LogSettings.reads :
    Json.Reads LogSettings.reader (Kind.record slots {}).value? (Kind.record slots {}).fits :=
  Json.reads_record
    (.cons (Json.fieldReads_of Json.reads_text)
      (.cons (Json.fieldReads_of (Json.reads_choice _)) .nil)) _ _

theorem SignatureSettings.reads :
    Json.Reads SignatureSettings.reader (Kind.record slots {}).value?
      (Kind.record slots {}).fits :=
  Json.reads_record
    (.cons (Json.fieldReads_of (Json.reads_choice _))
      (.cons (Json.fieldReads_of Json.reads_boolean) .nil)) _ _

/-- **Settings are read from JSON as expected.** -/
theorem Settings.reads : Json.Reads Settings.reader kind.value? kind.fits :=
  Json.reads_record
    (.cons (Json.fieldReads_of LogSettings.reads)
      (.cons (Json.fieldReads_of SignatureSettings.reads) .nil)) _ _

theorem LogSettings.extracts : Toml.ExtractsKind LogSettings.extract (.record slots {}) :=
  Toml.extracts_record
    (.cons (Toml.fieldExtracts_of Toml.extracts_text)
      (.cons (Toml.fieldExtracts_of (Toml.extracts_choice _)) .nil))
    (pairs.apart _ _ _ _) _ _

theorem SignatureSettings.extracts :
    Toml.ExtractsKind SignatureSettings.extract (.record slots {}) :=
  Toml.extracts_record
    (.cons (Toml.fieldExtracts_of (Toml.extracts_choice _))
      (.cons (Toml.fieldExtracts_of Toml.extracts_boolean) .nil))
    (pairs.apart _ _ _ _) _ _

/-- **Settings are taken from TOML as expected.** -/
theorem Settings.extracts : Toml.ExtractsKind Settings.extract kind :=
  Toml.extracts_record
    (.cons (Toml.fieldExtracts_of LogSettings.extracts)
      (.cons (Toml.fieldExtracts_of SignatureSettings.extracts) .nil))
    (pairs.apart _ _ _ _) _ _

/-! ## What the settings of a document are -/

/-- The places of the groups hold tables, if anything. -/
def GroupsAreTables (es : Entries) : Prop :=
  ∀ key ∈ ["logging", "signature"], ∀ t, es.lookup key = some t → t.IsTable

/-- A scalar that is no value for its field. -/
def MistypedField (t : Tree) : Prop :=
  t.Misfits ["logging", "level"] Tree.text? ∨
    t.Misfits ["logging", "format"] LogFormat.ofTree? ∨
    t.Misfits ["signature", "verification"] VerificationPolicy.ofTree? ∨
    t.Misfits ["signature", "diagnostics"] Tree.boolean?

/-- A group is refused if one of its fields is. -/
theorem Settings.kind_refuses_of_misfits {ρ α : Type} {key name : String} {value? : Tree → Option α}
    {slots : List (Slot ρ)} {r : ρ} {put : Settings → ρ → Settings} {put' : ρ → α → ρ}
    (hgroup : slotOf? Settings.slots key = some (.of key (.record slots r) put))
    (hfield : slotOf? slots name = some (.of name (.scalar value?) put')) {t : Tree}
    (h : t.Misfits [key, name] value?) : Settings.kind.refuses t := by
  obtain ⟨u, hu, hscalar, hnone⟩ := h
  obtain ⟨es, v, rfl, hv, hu⟩ := Tree.at?_cons hu
  obtain ⟨gs, w, rfl, hw, hu⟩ := Tree.at?_cons hu
  cases hu
  exact Kind.refuses_record hgroup hv (Kind.refuses_record hfield hw ⟨hscalar, hnone⟩ r) {}

theorem Settings.kind_refuses {t : Tree} (h : MistypedField t) : Settings.kind.refuses t := by
  obtain h | h | h | h := h <;> exact kind_refuses_of_misfits rfl rfl h

theorem Settings.kind_sound : Settings.kind.Sound := by
  refine Kind.sound_record ?_ _
  simp only [Settings.slots, List.forall_mem_cons, List.not_mem_nil, false_implies, implies_true,
    and_true]
  constructor <;> refine Slot.sound_of (Kind.sound_record ?_ _)
  · simp only [LogSettings.slots, List.forall_mem_cons, List.not_mem_nil, false_implies,
      implies_true, and_true]
    exact ⟨Slot.sound_of (Kind.sound_scalar _), Slot.sound_of (Kind.sound_scalar _)⟩
  · simp only [SignatureSettings.slots, List.forall_mem_cons, List.not_mem_nil, false_implies,
      implies_true, and_true]
    exact ⟨Slot.sound_of (Kind.sound_scalar _), Slot.sound_of (Kind.sound_scalar _)⟩

section Values

variable {es : Entries} (hkeys : (Tree.table es).Every Tree.DistinctKeys)
  (hgroups : GroupsAreTables es)
include hkeys hgroups

theorem GroupsAreTables.group {key : String} (hkey : key ∈ ["logging", "signature"]) {t : Tree}
    (ht : es.lookup key = some t) : t.IsTable ∧ t.DistinctKeys :=
  ⟨hgroups key hkey t ht, (hkeys.lookup ht).self⟩

theorem Settings.kind_fits : Settings.kind.fits (.table es) := by
  refine Kind.fits_record hkeys.self ?_ {}
  simp only [Settings.slots, List.forall_mem_cons, List.not_mem_nil, false_implies, implies_true,
    and_true]
  constructor
  · intro t ht
    obtain ⟨⟨gs, rfl⟩, hkeys⟩ := hgroups.group hkeys (by simp [Slot.of]) ht
    exact Kind.fits_record hkeys (by simp [LogSettings.slots, Slot.of, Kind.scalar]) {}
  · intro t ht
    obtain ⟨⟨gs, rfl⟩, hkeys⟩ := hgroups.group hkeys (by simp [Slot.of]) ht
    exact Kind.fits_record hkeys (by simp [SignatureSettings.slots, Slot.of, Kind.scalar]) {}

theorem Settings.kind_value {level : String} {format : LogFormat}
    {verification : VerificationPolicy} {diagnostics : Bool}
    (hlevel : (Tree.table es).valueAt ["logging", "level"] Tree.text? "info" = some level)
    (hformat : (Tree.table es).valueAt ["logging", "format"] LogFormat.ofTree? .text =
      some format)
    (hverification : (Tree.table es).valueAt ["signature", "verification"]
      VerificationPolicy.ofTree? .standard = some verification)
    (hdiagnostics : (Tree.table es).valueAt ["signature", "diagnostics"] Tree.boolean? true =
      some diagnostics) :
    Settings.kind.value? (.table es) =
      some ⟨⟨level, format⟩, ⟨verification, diagnostics⟩⟩ := by
  have hlogging := LogSettings.pairs.valueAt_record (.scalar Tree.text?)
    (.scalar LogFormat.ofTree?) (by decide)
    (fun t ht ↦ hgroups.group hkeys (by simp) ht) (r := {}) hlevel hformat
  have hsignature := SignatureSettings.pairs.valueAt_record
    (.scalar VerificationPolicy.ofTree?) (.scalar Tree.boolean?) (by decide)
    (fun t ht ↦ hgroups.group hkeys (by simp) ht) (r := {}) hverification hdiagnostics
  exact Settings.pairs.value?_record _ _ (by decide) hkeys.self hlogging hsignature

end Values

/-! ## The theorem -/

/-- A document has settings, in both formats and however it is written.  TOML is read up to a
limited depth only, and only with numbers that fit. -/
structure HasSettings (t : Tree) (s : Settings) : Prop where
  toml : t.depth < Toml.depthLimit → t.Every Tree.InRange →
    ∀ text, Toml.Denotes text t → Settings.ofToml text = .ok s
  json : ∀ text, Json.Denotes text t → Settings.ofJson text = .ok s

/-- A document has no settings, in both formats and however it is written. -/
structure HasNoSettings (t : Tree) : Prop where
  toml : t.depth < Toml.depthLimit → t.Every Tree.InRange →
    ∀ text, Toml.Denotes text t → ∃ m, Settings.ofToml text = .error (.misfit m)
  json : ∀ text, Json.Denotes text t → ∃ f, Settings.ofJson text = .error f

theorem Settings.hasSettings_of_value {t : Tree} {s : Settings} (hfits : kind.fits t)
    (h : kind.value? t = some s) : HasSettings t s where
  toml hdepth hrange text ht := by
    obtain ⟨table, hread, ht⟩ := Toml.read_eq ht hdepth hrange
    rw [ofToml, hread]
    dsimp only
    rw [extracts.ok ht hfits h]
    rfl
  json text ht := by
    have hrun := reads.runAll ht hfits
    rwa [h] at hrun

theorem Settings.hasNoSettings_of_refuses {t : Tree} (hfits : kind.fits t) (h : kind.refuses t) :
    HasNoSettings t where
  toml hdepth hrange text ht := by
    obtain ⟨table, hread, ht⟩ := Toml.read_eq ht hdepth hrange
    obtain ⟨m, hm⟩ := extracts.error ht hfits h
    rw [ofToml, hread]
    dsimp only
    rw [hm]
    exact ⟨m, rfl⟩
  json text ht := by
    have hrun := reads.runAll ht hfits
    rwa [kind_sound t h] at hrun

/-- **A document of settings is laid over the defaults, in both formats alike.**  In the document
keys are distinct and groups are tables; it may have any other entries, at each level and in any
order.  What its texts are is said by the grammars of both formats.

* There are texts for it in both formats.
* If what it says about each field is a value for the field, both formats have the same settings:
  those values, and the default of each field about which it says nothing.
* If it has a scalar for a field that is no value for it, there are no settings in either format. -/
theorem Settings.documents_overlay_defaults {es : Entries}
    (hkeys : (Tree.table es).Every Tree.DistinctKeys) (hgroups : GroupsAreTables es) :
    ((∃ text, Toml.Denotes text (.table es)) ∧ ∃ text, Json.Denotes text (.table es)) ∧
    (∀ level format verification diagnostics,
      (Tree.table es).valueAt ["logging", "level"] Tree.text? "info" = some level →
      (Tree.table es).valueAt ["logging", "format"] LogFormat.ofTree? .text = some format →
      (Tree.table es).valueAt ["signature", "verification"] VerificationPolicy.ofTree? .standard =
        some verification →
      (Tree.table es).valueAt ["signature", "diagnostics"] Tree.boolean? true = some diagnostics →
      HasSettings (.table es) ⟨⟨level, format⟩, ⟨verification, diagnostics⟩⟩) ∧
    (MistypedField (.table es) → HasNoSettings (.table es)) := by
  have hfits := kind_fits hkeys hgroups
  refine ⟨⟨Toml.exists_denotes hkeys, Json.exists_denotes _⟩, fun level format verification
    diagnostics hlevel hformat hverification hdiagnostics ↦ ?_, fun hmistyped ↦ ?_⟩
  · exact hasSettings_of_value hfits
      (kind_value hkeys hgroups hlevel hformat hverification hdiagnostics)
  · exact hasNoSettings_of_refuses hfits (kind_refuses hmistyped)

/-- A document that asks for strict verification, among other things. -/
def strictDocument : Entries :=
  [("other", .list [.integer 1, .real true ⟨25, -1⟩]),
    ("signature", .table [("retries", .table []), ("verification", .text "strict")])]

/-- A text of the document, with headers of tables. -/
def strictText : String :=
  "other = [1, -2.5]\n[signature] # checked\nverification = 'strict'\n[signature.retries]\n"

/-- What the lines of the text say. -/
def strictStatements : List Toml.Statement :=
  [⟨[(.last, "other")], .value (.list [.integer 1, .real true ⟨25, -1⟩])⟩,
    ⟨[(.header, "signature")], .header⟩,
    ⟨[(.header, "signature"), (.last, "verification")], .value (.text "strict")⟩,
    ⟨[(.header, "signature"), (.header, "retries")], .header⟩]

/-- A document with a policy that does not exist. -/
def unknownDocument : Entries :=
  [("signature", .table [("verification", .text "Strict"), ("diagnostics", .boolean false)])]

section StrictText

open Toml

theorem valueForm_strictList (rest : List Char) :
    ValueForm ("[1, -2.5]".toList ++ rest) (.list [.integer 1, .real true ⟨25, -1⟩]) rest := by
  have hone : WholeForm ('1' :: ',' :: ' ' :: '-' :: '2' :: '.' :: '5' :: ']' :: rest) [1]
      (',' :: ' ' :: '-' :: '2' :: '.' :: '5' :: ']' :: rest) :=
    .digits (.last ⟨by decide, .inl rfl⟩) (by simp)
  have htwo : WholeForm ('2' :: '.' :: '5' :: ']' :: rest) [2] ('.' :: '5' :: ']' :: rest) :=
    .digits (.last ⟨by decide, .inl rfl⟩) (by simp)
  have hfive : FractionForm ('.' :: '5' :: ']' :: rest) (some [5]) (']' :: rest) :=
    .present (.last ⟨by decide, .inl rfl⟩)
  have hinteger : ValueForm _ (.integer 1) _ :=
    .integer (n := ⟨false, [1], none, none⟩) ⟨_, _, _, .absent, hone, .absent, .absent⟩
      ⟨rfl, rfl, rfl⟩
  have hreal : ValueForm _ (.real true ⟨25, -1⟩) _ :=
    .real (n := ⟨true, [2], some [5], none⟩) ⟨_, _, _, .minus, htwo, hfive, .absent⟩
      ⟨.inl (Option.some_ne_none _), by
        simp [Json.Numeral.ofDigits, Json.Numeral.lastExponent]⟩
  exact .list (.cons (.refl _) hinteger (.refl _)
    (.last (.blank (.inl rfl) (.refl _)) hreal (.refl _)))

/-- The lines, from the last one to the first one. -/
theorem linesForm_strictText : LinesForm [] strictText.toList strictStatements := by
  have hretries : LinesForm ["signature"]
      ('[' :: ("signature".toList ++ '.' :: ("retries".toList ++ [']', '\n']))) _ :=
    .header (.refl _) (.dot (.refl _) (simpleKey_bare (by decide +kernel) (by decide +kernel) _)
      (.refl _) (keyForm_bare (by decide +kernel) (by decide +kernel) (.refl _)))
      (endOfLine_feed _) .done
  have hverification : LinesForm ["signature"] ("verification".toList ++
      ' ' :: '=' :: ' ' :: '\'' :: ("strict".toList ++ '\'' :: '\n' :: _)) _ :=
    .entry (.intro (keyForm_bare (by decide +kernel) (by decide +kernel) (blanks_space _))
      (blanks_space _) (valueForm_literal (by decide +kernel) _)) (endOfLine_feed _) hretries
  have hchecked : ∀ c ∈ " checked".toList, IsText c :=
    List.all_iff_forall_prop.mp (by decide +kernel)
  have hcomment : ∀ rest, EndOfLine (' ' :: '#' :: (" checked".toList ++ '\n' :: rest)) rest :=
    fun rest ↦ ⟨_, '\n' :: rest, blanks_space _, .inr ⟨_, rfl, hchecked⟩, .inl .feed⟩
  have hsignature : LinesForm []
      ('[' :: ("signature".toList ++ ']' :: ' ' :: '#' :: (" checked".toList ++ '\n' :: _))) _ :=
    .header (.refl _) (keyForm_bare (by decide +kernel) (by decide +kernel) (.refl _))
      (hcomment _) hverification
  have hother : LinesForm []
      ("other".toList ++ ' ' :: '=' :: ' ' :: ("[1, -2.5]".toList ++ '\n' :: _)) _ :=
    .entry (.intro (keyForm_bare (by decide +kernel) (by decide +kernel) (blanks_space _))
      (blanks_space _) (valueForm_strictList _)) (endOfLine_feed _) hsignature
  exact hother

theorem tabulates_strictStatements : Tabulates strictStatements strictDocument := by
  have hretries : Yields [headerHere] (.table []) :=
    yields_of_header (List.forall_mem_nil _)
      (.intro List.nodup_nil (List.forall_mem_nil _) (List.forall_mem_nil _))
  have hinside : Tabulates [⟨[(.last, "verification")], .value (.text "strict")⟩,
      ⟨[(.header, "retries")], .header⟩]
      [("retries", .table []), ("verification", .text "strict")] := by
    refine .intro (by decide +kernel) (by simp [Statement.key?]) ?_
    simp only [List.forall_mem_cons]
    exact ⟨hretries, .value _, List.forall_mem_nil _⟩
  have hsignature : Yields [headerHere,
      (.header, ⟨[(.last, "verification")], .value (.text "strict")⟩),
      (.header, ⟨[(.header, "retries")], .header⟩)]
      (.table [("retries", .table []), ("verification", .text "strict")]) := by
    refine yields_of_header ?_ hinside
    simp only [List.forall_mem_cons]
    exact ⟨⟨rfl, List.cons_ne_nil _ _⟩, ⟨rfl, List.cons_ne_nil _ _⟩, List.forall_mem_nil _⟩
  refine .intro (by decide +kernel)
    (by simp [strictStatements, strictDocument, Statement.key?]) ?_
  simp only [strictDocument, List.forall_mem_cons]
  exact ⟨.value _, hsignature, List.forall_mem_nil _⟩

theorem denotes_strictText : Denotes strictText (.table strictDocument) :=
  ⟨_, _, _, .inl rfl, linesForm_strictText, tabulates_strictStatements, rfl⟩

end StrictText

theorem Settings.documents_overlay_defaults_strict :
    Settings.ofToml strictText = .ok ⟨⟨"info", .text⟩, ⟨.strict, true⟩⟩ ∧
    (∃ text, Json.Denotes text (.table strictDocument) ∧
      Settings.ofJson text = .ok ⟨⟨"info", .text⟩, ⟨.strict, true⟩⟩) ∧
    (∃ text, Toml.Denotes text (.table unknownDocument) ∧
      ∃ m, Settings.ofToml text = .error (.misfit m)) ∧
    ∃ text, Json.Denotes text (.table unknownDocument) ∧ ∃ f, Settings.ofJson text = .error f := by
  have hkeys : (Tree.table strictDocument).Every Tree.DistinctKeys := by
    simp [strictDocument, Tree.Every, Tree.EveryEntry, Tree.EveryItem, Tree.DistinctKeys]
  have hgroups : GroupsAreTables strictDocument := by
    simp [GroupsAreTables, strictDocument, Tree.IsTable, List.lookup_cons]
  have hrange : (Tree.table strictDocument).Every Tree.InRange := by
    have hreal : Binary64.ofDecimal 25 (-1) < Binary64.overflow := by decide +kernel
    simpa [strictDocument, Tree.Every, Tree.EveryEntry, Tree.EveryItem, Tree.InRange] using hreal
  have hkeys' : (Tree.table unknownDocument).Every Tree.DistinctKeys := by
    simp [unknownDocument, Tree.Every, Tree.EveryEntry, Tree.DistinctKeys]
  have hgroups' : GroupsAreTables unknownDocument := by
    simp [GroupsAreTables, unknownDocument, Tree.IsTable, List.lookup_cons]
  have hrange' : (Tree.table unknownDocument).Every Tree.InRange := by
    simp [unknownDocument, Tree.Every, Tree.EveryEntry, Tree.InRange]
  obtain ⟨⟨-, text, htext⟩, hloaded, -⟩ := documents_overlay_defaults hkeys hgroups
  obtain ⟨⟨⟨toml, htoml⟩, json, hjson⟩, -, hrefused⟩ := documents_overlay_defaults hkeys' hgroups'
  have hstrict := hloaded _ _ _ _ rfl rfl rfl rfl
  have hunknown := hrefused (.inr (.inr (.inl ⟨_, rfl, rfl, rfl⟩)))
  exact ⟨hstrict.toml (by decide) hrange _ denotes_strictText, ⟨text, htext, hstrict.json _ htext⟩,
    ⟨toml, htoml, hunknown.toml (by decide) hrange' _ htoml⟩, json, hjson, hunknown.json _ hjson⟩

end HexSigner
