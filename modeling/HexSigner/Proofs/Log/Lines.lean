import HexSigner.Log.Logger
import HexSigner.Proofs.Json.Compact
import Mathlib.Data.List.Forall2

/-!
# What a log says in JSON

Texts of any kind get into the log: the time, the value of a field, the message of an event.  In JSON
none of them can do any harm.  Whatever an event holds, its line is one object on one line, and the
object says what the event says and nothing else (`lineSays_jsonLine`).  So a log can be taken apart
at its line breaks, and the events that were written are what is found in it, one by one and with
nothing in between (`Logger.says_write`).
-/

set_option autoImplicit false

namespace HexSigner.Log

open Document Json

/-! ## Logs -/

/-- A line says one thing: it has a tree of JSON in it, no other one, and no line ends within it. -/
structure LineSays (line : String) (t : Tree) : Prop where
  unbroken : Unbroken line
  denotes_iff : ∀ u, Denotes line u ↔ u = t

/-- Between its line breaks a text has one line for each of some trees, and behind the last line
break it has nothing. -/
def Says (text : String) (ts : List Tree) : Prop :=
  ∃ lines : List String, text.toList.splitOn '\n' = lines.map String.toList ++ [[]] ∧
    List.Forall₂ LineSays lines ts

theorem LineSays.of_writes {line : String} {t : Tree} (h : Writes line t) : LineSays line t where
  unbroken := h.unbroken
  denotes_iff _ := h.denotes_iff

theorem LineSays.rightUnique : Relator.RightUnique LineSays :=
  fun _ t _ h h' ↦ (h'.denotes_iff t).mp ((h.denotes_iff t).mpr rfl)

/-- **A log says one thing.** -/
theorem Says.unique {text : String} {ts ts' : List Tree} (h : Says text ts) (h' : Says text ts') :
    ts = ts' := by
  obtain ⟨lines, hlines, hsays⟩ := h
  obtain ⟨lines', hlines', hsays'⟩ := h'
  rw [hlines, List.append_cancel_right_eq,
    List.map_inj_right fun _ _ ↦ String.toList_inj.mp] at hlines'
  subst hlines'
  exact List.right_unique_forall₂' LineSays.rightUnique hsays hsays'

theorem Says.says_iff {text : String} {ts ts' : List Tree} (h : Says text ts) :
    Says text ts' ↔ ts' = ts :=
  ⟨fun h' ↦ h'.unique h, fun heq ↦ heq ▸ h⟩

theorem says_empty : Says "" [] := ⟨[], rfl, .nil⟩

/-- One more line in front of a log. -/
theorem Says.cons {line text : String} {t : Tree} {ts : List Tree} (hline : LineSays line t)
    (h : Says text ts) : Says (line ++ "\n" ++ text) (t :: ts) := by
  obtain ⟨lines, hlines, hsays⟩ := h
  refine ⟨line :: lines, ?_, .cons hline hsays⟩
  have hsplit := List.splitOn_append_cons_self_of_not_mem hline.unbroken.not_mem_newline text.toList
  rw [hlines] at hsplit
  simpa using hsplit

/-! ## Events -/

/-- The entries for the operation that an event occurred in. -/
def spanEntries : Option Operation → Entries
  | some o =>
    [("span", .table [("name", .text o.name)]),
      ("spans", .list [.table [("name", .text o.name)]])]
  | none => []

/-- What the line of an event says. -/
def Event.tree (time : String) (e : Event) : Tree :=
  .table ([("timestamp", .text time), ("level", .text e.level.name),
    ("fields", .table
      (("message", .text e.message) :: e.fields.map fun f ↦ (f.name, .text f.value))),
    ("target", .text e.target)] ++ spanEntries e.span ++ [("threadId", .text "ThreadId(1)")])

theorem writesMember_member (name value : String) :
    WritesMember (member name value) (name, .text value) :=
  ⟨quoted value, rfl, writes_quoted value⟩

/-- The members for the operation that an event occurred in. -/
def spanMembers : Option Operation → List String
  | some o =>
    [quoted "span" ++ ":" ++ object [member "name" o.name],
      quoted "spans" ++ ":" ++ ("[" ++ object [member "name" o.name] ++ "]")]
  | none => []

/-- The members of the line of an event. -/
def lineMembers (time : String) (e : Event) : List String :=
  [member "timestamp" time, member "level" e.level.name,
    quoted "fields" ++ ":" ++
      object (member "message" e.message :: e.fields.map fun f ↦ member f.name f.value),
    member "target" e.target] ++ spanMembers e.span ++ [member "threadId" "ThreadId(1)"]

/-- The line of an event, member by member. -/
theorem jsonLine_eq (time : String) (e : Event) :
    jsonLine time e = object (lineMembers time e) ++ "\n" := by
  have hfields : ",\"fields\":\x7b" = "," ++ quoted "fields" ++ ":" ++ "\x7b" := by decide +kernel
  have hfieldsEnd : "\x7d," = "\x7d" ++ "," := by decide
  have hspan : ",\"span\":" = "," ++ quoted "span" ++ ":" := by decide +kernel
  have hspans : ",\"spans\":[" = "," ++ quoted "spans" ++ ":" ++ "[" := by decide +kernel
  have hend : "\x7d\n" = "\x7d" ++ "\n" := by decide
  unfold jsonLine lineMembers
  rw [hfields, hfieldsEnd, hspan, hspans, hend]
  cases e.span with
  | none =>
    simp only [spanMembers, object, List.cons_append, List.nil_append, String.empty_append,
      String.intercalate_cons_cons, String.intercalate_singleton, String.append_assoc]
  | some o =>
    simp only [spanMembers, object, List.cons_append, List.nil_append,
      String.intercalate_cons_cons, String.intercalate_singleton, String.append_assoc]

theorem writesMember_spanMembers (span : Option Operation) :
    List.Forall₂ WritesMember (spanMembers span) (spanEntries span) := by
  cases span with
  | none => exact .nil
  | some o =>
    have hname : Writes (object [member "name" o.name]) (.table [("name", .text o.name)]) :=
      writes_object (.cons (writesMember_member _ _) .nil)
    exact .cons ⟨_, rfl, hname⟩ (.cons ⟨_, rfl, hname.singleton⟩ .nil)

theorem writes_lineMembers (time : String) (e : Event) :
    Writes (object (lineMembers time e)) (e.tree time) := by
  have hfields : List.Forall₂ WritesMember (e.fields.map fun f ↦ member f.name f.value)
      (e.fields.map fun f ↦ (f.name, Tree.text f.value)) := by
    rw [List.forall₂_map_left_iff, List.forall₂_map_right_iff, List.forall₂_same]
    exact fun f _ ↦ writesMember_member _ _
  refine writes_object (List.rel_append (List.rel_append ?_ (writesMember_spanMembers e.span)) ?_)
  · exact .cons (writesMember_member _ _) (.cons (writesMember_member _ _) (.cons
      ⟨_, rfl, writes_object (.cons (writesMember_member _ _) hfields)⟩
      (.cons (writesMember_member _ _) .nil)))
  · exact .cons (writesMember_member _ _) .nil

/-- **Whatever an event holds, its line says what the event says.** -/
theorem lineSays_jsonLine (time : String) (e : Event) :
    ∃ line, jsonLine time e = line ++ "\n" ∧ LineSays line (e.tree time) :=
  ⟨_, jsonLine_eq time e, .of_writes (writes_lineMembers time e)⟩

/-- **A log in JSON says what the events say that its filter selects**, one by one. -/
theorem Logger.says_write {l : Logger} (h : l.format = .json) (coloured : Bool) (time : String)
    (events : List Event) :
    Says (l.write coloured time events)
      ((events.filterMap l.filter.select).map (Event.tree time)) := by
  rw [write, h]
  induction events.filterMap l.filter.select with
  | nil => exact says_empty
  | cons e es ih =>
    obtain ⟨line, hline, hsays⟩ := lineSays_jsonLine time e
    rw [List.map_cons, String.join_cons, Log.line, hline]
    exact .cons hsays ih

end HexSigner.Log
