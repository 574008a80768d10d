import HexSigner.Proofs.Json.Compact
import HexSigner.Proofs.Settings.Documents

/-!
# Settings survive their JSON text

Settings are written with every field that they have, so nothing is left to the defaults, and a name
that was not read back would show.  The level is any text at all, and all of its characters come
back, whichever of them had to be escaped.

The text is one form of a document (`writes_toJson`), and reading is known for documents in whatever
form they are; so reading the text comes down to what the document says about each field.
-/

set_option autoImplicit false

namespace HexSigner

open Document Json

/-- The document that has an entry for every field. -/
def Settings.entries (s : Settings) : Entries :=
  [("logging", .table
      [("level", .text s.logging.level), ("format", .text s.logging.format.name)]),
    ("signature", .table
      [("verification", .text s.signature.verification.name),
        ("diagnostics", .boolean s.signature.diagnostics)])]

/-- The text of settings, member by member. -/
theorem Settings.toJson_eq (s : Settings) :
    s.toJson = object
      [quoted "logging" ++ ":" ++ object
          [quoted "level" ++ ":" ++ quoted s.logging.level,
            quoted "format" ++ ":" ++ quoted s.logging.format.name],
        quoted "signature" ++ ":" ++ object
          [quoted "verification" ++ ":" ++ quoted s.signature.verification.name,
            quoted "diagnostics" ++ ":" ++ boolText s.signature.diagnostics]] := by
  have hlevel : "\x7b\"logging\":\x7b\"level\":" =
      "\x7b" ++ quoted "logging" ++ ":" ++ "\x7b" ++ quoted "level" ++ ":" := by
    decide +kernel
  have hformat : ",\"format\":" = "," ++ quoted "format" ++ ":" := by decide +kernel
  have hverification : "\x7d,\"signature\":\x7b\"verification\":" =
      "\x7d" ++ "," ++ quoted "signature" ++ ":" ++ "\x7b" ++ quoted "verification" ++ ":" := by
    decide +kernel
  have hdiagnostics : ",\"diagnostics\":" = "," ++ quoted "diagnostics" ++ ":" := by decide +kernel
  have hend : "\x7d\x7d" = "\x7d" ++ "\x7d" := by decide +kernel
  -- not `rw [toJson]`: the equation that it makes takes the long literals apart
  unfold toJson
  rw [hlevel, hformat, hverification, hdiagnostics, hend]
  simp only [object, String.intercalate_cons_cons, String.intercalate_singleton,
    String.append_assoc]

/-- **The text of settings is a form of their document.** -/
theorem Settings.writes_toJson (s : Settings) : Writes s.toJson (.table s.entries) := by
  rw [toJson_eq]
  refine writes_object (.cons ⟨_, rfl, writes_object ?_⟩ (.cons ⟨_, rfl, writes_object ?_⟩ .nil))
  · exact .cons ⟨_, rfl, writes_quoted _⟩ (.cons ⟨_, rfl, writes_quoted _⟩ .nil)
  · exact .cons ⟨_, rfl, writes_quoted _⟩ (.cons ⟨_, rfl, writes_boolText _⟩ .nil)

theorem LogFormat.ofTree?_name (f : LogFormat) : LogFormat.ofTree? (.text f.name) = some f := by
  cases f <;> rfl

theorem VerificationPolicy.ofTree?_name (p : VerificationPolicy) :
    VerificationPolicy.ofTree? (.text p.name) = some p := by
  cases p <;> rfl

/-- The document says of every field what the settings do. -/
theorem Settings.hasSettings_entries (s : Settings) : HasSettings (.table s.entries) s := by
  have hkeys : (Tree.table s.entries).Every Tree.DistinctKeys := by
    simp [entries, Tree.Every, Tree.EveryEntry, Tree.DistinctKeys]
  have hgroups : GroupsAreTables s.entries := by
    simp [GroupsAreTables, entries, Tree.IsTable, List.lookup_cons]
  refine hasSettings_of_value (kind_fits hkeys hgroups) (kind_value hkeys hgroups ?_ ?_ ?_ ?_)
  · rfl
  · exact s.logging.format.ofTree?_name
  · exact s.signature.verification.ofTree?_name
  · rfl

/-- **Settings survive their JSON text.**  The text says exactly what the settings are, however it is
decoded; reading it gives the settings back, and so settings with the same text are the same. -/
theorem Settings.ofJson_toJson (s : Settings) :
    ofJson s.toJson = .ok s ∧
    (∀ s' : Settings, s'.toJson = s.toJson ↔ s' = s) ∧
    ∀ t, Denotes s.toJson t ↔ t = .table s.entries := by
  have hread : ∀ s : Settings, ofJson s.toJson = .ok s := fun s ↦
    s.hasSettings_entries.json _ s.writes_toJson.denotes
  refine ⟨hread s, fun s' ↦ ⟨fun h ↦ ?_, fun h ↦ h ▸ rfl⟩, fun t ↦ s.writes_toJson.denotes_iff⟩
  have hsame := hread s'
  rw [h, hread s, Except.ok.injEq] at hsame
  exact hsame.symm

end HexSigner
