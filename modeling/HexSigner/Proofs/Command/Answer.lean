import HexSigner.Command.Run
import HexSigner.Proofs.Json.Written

/-!
# What an answer says in JSON

A command writes its answer as text or, if it is asked to, as an object of JSON.  Whoever reads the
object finds in it exactly what the text says.  `Shown` is what can be found in such an object at
all, read by a reader that knows the members of every command, and `Answer.shown` is what there is
to be found in an answer: nothing else is in its object, and nothing of it is lost on the way
(`Answer.runAll_render`).
-/

set_option autoImplicit false

namespace HexSigner.Command

open Json

/-! ## Layout -/

theorem lines_cons (first : Bool) (member : String × String) (members : List (String × String)) :
    lines first (member :: members) =
      lineStart first ++ ",\n".intercalate ((member :: members).map fun (name, value) ↦
        "  " ++ quoted name ++ ": " ++ value) ++ "\n\x7d" := by
  induction members generalizing first member with
  | nil => simp [lines]
  | cons next members ih =>
    rw [lines, ih]
    simp [lineStart, String.append_assoc]

theorem object_cons (member : String × String) (members : List (String × String)) :
    Answer.object (member :: members) = "\x7b" ++ lines true (member :: members) := by
  rw [lines_cons, Answer.object, lineStart, if_pos rfl, ← String.append_assoc,
    ← String.append_assoc]
  rfl

/-! ## Answers -/

/-- What can be found in the object of an answer. -/
structure Shown where
  publicKey : Option String := none
  privateKey : Option String := none
  identifier : Option String := none
  signature : Option String := none
  valid : Option Bool := none
deriving DecidableEq

/-- The members that the object of an answer may have. -/
def Shown.fields : List (Json.Field Shown) :=
  [.of "public_key" .text fun s text ↦ { s with publicKey := some text },
    .of "private_key" .text fun s text ↦ { s with privateKey := some text },
    .of "key_id" .text fun s text ↦ { s with identifier := some text },
    .of "signature" .text fun s text ↦ { s with signature := some text },
    .of "valid" .boolean fun s b ↦ { s with valid := some b }]

/-- Reads the object of an answer. -/
def Shown.reader : Reader Shown := .record "an answer" fields {}

/-- What there is to be found in an answer. -/
def Answer.shown : Answer → Shown
  | .pair p =>
    { publicKey := some p.publicKey.toText, privateKey := some p.toText,
      identifier := some p.publicKey.identifier }
  | .signature g => { signature := some g.toText }
  | .signatureValid b => { valid := some b }
  | .keyValid b => { valid := some b }

/-- What is found in the members of an answer. -/
theorem Answer.takesAll_members (a : Answer) :
    TakesAll Shown.fields [] {} a.members a.shown := by
  cases a with
  | pair p =>
    exact .cons rfl (by decide) (takesValue_quoted _ _ _ _) <|
      .cons rfl (by decide) (takesValue_quoted _ _ _ _) <|
        .cons rfl (by decide) (takesValue_quoted _ _ _ _) .nil
  | signature g => exact .cons rfl (by decide) (takesValue_quoted _ _ _ _) .nil
  | signatureValid b => exact .cons rfl (by decide) (takesValue_boolText _ _ _ _) .nil
  | keyValid b => exact .cons rfl (by decide) (takesValue_boolText _ _ _ _) .nil

/-- **The object of an answer says what the answer says.**  It is a whole JSON text, and opens with
a brace. -/
theorem Answer.runAll_render (a : Answer) :
    (a.render true).toList.head? = some '\x7b' ∧
      Shown.reader.runAll (a.render true) = .ok a.shown := by
  have htext : (a.render true).toList = '\x7b' :: ((lines true a.members).toList ++ ['\n']) := by
    cases a <;> simp [render, members, object_cons]
  have hread : Shown.reader.run (a.render true).toList = .ok (a.shown, ['\n']) := by
    rw [htext]
    exact readMembers_lines a.takesAll_members true ['\n']
  refine ⟨by rw [htext]; rfl, ?_⟩
  rw [Reader.runAll, hread]
  rfl

end HexSigner.Command
