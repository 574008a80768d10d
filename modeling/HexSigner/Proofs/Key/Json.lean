import HexSigner.Key.Json
import HexSigner.Proofs.Ed25519
import HexSigner.Proofs.Json.Unique
import HexSigner.Proofs.Text.Codec

/-!
# Keys and signatures, in plain text and in JSON

A public key and a signature each have one plain text up to the case of its letters, and several
ways lead to it and back: the text itself, the way a value is shown, a text of JSON, and a value of
JSON that was read already.  They all accept the same (`json_agrees_with_text`).

`AgreesWithText` says what that means for any type whose values have a plain text.  JSON adds
nothing and takes nothing away: a string of JSON is read as what its contents stand for, however it
is spelled, a failure of the contents keeps its wording, and nothing but a string is ever accepted.
The type has a part in this in two places only: its plain texts have to be read back, and they must
not have a character that JSON escapes.
-/

set_option autoImplicit false

namespace HexSigner

namespace Json

open Document

/-! ## Strings that are written -/

/-- A text without characters that are escaped is written between quotation marks as it is. -/
theorem quoted_of_forall {s : String} (h : ∀ c ∈ s.toList, escapeChar c = [c]) :
    quoted s = "\"" ++ s ++ "\"" := by
  have hplain : s.toList.flatMap escapeChar = s.toList := by
    rw [List.flatMap_congr h, List.flatMap_singleton']
  rw [← String.toList_inj, quoted, hplain]
  simp

theorem denotes_quoted (s : String) : Denotes (quoted s) (.text s) := by
  have hform := ValueForm.text (spells_of_readString (readString_flatMap_escapeChar s.toList []))
  rw [String.ofList_toList] at hform
  refine ⟨_, [], .refl _, ?_, .refl _⟩
  rw [quoted, String.toList_ofList, List.cons_append]
  exact hform

/-! ## Any type with a plain text -/

/-- JSON accepts and writes just what plain text does.  The plain text of a value is read by
`ofText` and written by `toText`; `Made` says which values there are. -/
structure AgreesWithText {α : Type} [ToString α] (Made : α → Prop)
    (ofText : String → Except Failure α) (toText : α → String)
    (ofJson : String → Except TextFault α) (ofJsonValue : Found → Except ValueFault α)
    (toJson : α → String) : Prop where
  /-- However a string is spelled, it is read as what it stands for. -/
  ofJson_iff : ∀ text s, Denotes text (.text s) →
    ∀ a, ofJson text = .ok a ↔ ofText s = .ok a
  ofJsonValue_iff : ∀ s a, ofJsonValue (.text s) = .ok a ↔ ofText s = .ok a
  /-- What is wrong with a string is worded as it is for plain text, and no place is added. -/
  ofJson_fails : ∀ text s, Denotes text (.text s) → ∀ f, ofText s = .error f →
    ∃ e, ofJson text = .error e ∧ e.message text = f.message
  ofJsonValue_fails : ∀ s f, ofText s = .error f →
    ∃ e, ofJsonValue (.text s) = .error e ∧ e.message = f.message
  /-- Nothing but a string is read. -/
  isString_of_ofJson : ∀ text a, ofJson text = .ok a → ∃ s, ∀ t, Denotes text t ↔ t = .text s
  isString_of_ofJsonValue : ∀ v a, ofJsonValue v = .ok a → ∃ s, v = .text s
  /-- What is written is the plain text, in quotation marks in JSON. -/
  toJson_eq : ∀ a, toJson a = "\"" ++ toText a ++ "\""
  toString_eq : ∀ a, toString a = toText a
  /-- What is written is read back. -/
  ofJson_toJson : ∀ a, Made a → ofJson (toJson a) = .ok a
  ofJsonValue_toText : ∀ a, Made a → ofJsonValue (.text (toText a)) = .ok a
  ofText_toString : ∀ a, Made a → ofText (toString a) = .ok a

section Generic

variable {α : Type} {ofText : String → Except Failure α}

/-- A text that denotes a string is read as what the string stands for, or fails as it does. -/
theorem decodeText_of_denotes {text s : String} (h : Denotes text (.text s)) :
    decodeText ofText text = (ofText s).mapError .content := by
  obtain ⟨rest, hread, hend⟩ := denotes_text_iff.mp h
  rw [decodeText, hread]
  dsimp only
  cases ofText s with
  | error f => rfl
  | ok a =>
    dsimp only
    rw [hend]
    rfl

/-- A text that is read denotes a string, and nothing else. -/
theorem isString_of_decodeText {text : String} {a : α} (h : decodeText ofText text = .ok a) :
    ∃ s, ∀ t, Denotes text t ↔ t = .text s := by
  rw [decodeText] at h
  split at h
  · cases h
  · next s rest hread =>
    split at h
    · cases h
    · split at h
      · cases h
      · next hend =>
        have hdenotes : Denotes text (.text s) := denotes_text_iff.mpr ⟨rest, hread, hend⟩
        refine ⟨s, fun t ↦ ⟨fun ht ↦ ?_, fun ht ↦ ht ▸ hdenotes⟩⟩
        exact (hdenotes.unique trivial ht).symm

theorem isString_of_decodeValue {v : Found} {a : α} (h : decodeValue ofText v = .ok a) :
    ∃ s, v = .text s := by
  cases v with
  | text s => exact ⟨s, rfl⟩
  | _ => cases h

/-- **Reading and writing strings of JSON agrees with any plain text** that is read back and needs
no escapes. -/
theorem agreesWithText [ToString α] {Made : α → Prop} {toText : α → String}
    (hshown : ∀ a, toString a = toText a) (hback : ∀ a, Made a → ofText (toText a) = .ok a)
    (hplain : ∀ a, ∀ c ∈ (toText a).toList, escapeChar c = [c]) :
    AgreesWithText Made ofText toText (decodeText ofText) (decodeValue ofText)
      fun a ↦ quoted (toText a) where
  ofJson_iff text s h a := by rw [decodeText_of_denotes h, mapError_eq_ok_iff]
  ofJsonValue_iff s a := mapError_eq_ok_iff
  ofJson_fails text s h f hf := ⟨.content f, by rw [decodeText_of_denotes h, hf]; rfl, rfl⟩
  ofJsonValue_fails s f hf := ⟨.content f, congrArg (Except.mapError _) hf, rfl⟩
  isString_of_ofJson _ _ := isString_of_decodeText
  isString_of_ofJsonValue _ _ := isString_of_decodeValue
  toJson_eq a := quoted_of_forall (hplain a)
  toString_eq := hshown
  ofJson_toJson a ha := by
    rw [decodeText_of_denotes (denotes_quoted _), mapError_eq_ok_iff]
    exact hback a ha
  ofJsonValue_toText a ha := mapError_eq_ok_iff.mpr (hback a ha)
  ofText_toString a ha := hshown a ▸ hback a ha

end Generic

/-- Hexadecimal text needs no escapes. -/
theorem escapeChar_of_mem_encode {bytes : List UInt8} {c : Char}
    (h : c ∈ (Hex.encode bytes).toList) : escapeChar c = [c] := by
  have hall : ("0123456789abcdef".toList.all fun d ↦ escapeChar d == [d]) = true := by
    decide +kernel
  exact eq_of_beq (List.all_eq_true.mp hall c (Hex.mem_encode h))

end Json

/-! ## Which values there are -/

/-- A public key is made from a document, or is the public half of a key pair. -/
inductive PublicKey.Made : PublicKey → Prop
  | read {document : List UInt8} {k : PublicKey} (h : PublicKey.ofDocument document = .ok k) :
      Made k
  | generated (pair : KeyPair) : Made pair.publicKey

namespace PublicKey

theorem made_of_ofText {text : String} {k : PublicKey} (h : ofText text = .ok k) : k.Made := by
  rw [ofText] at h
  split at h
  · cases h
  · exact .read h

theorem Made.ofText_toText {k : PublicKey} (h : k.Made) : ofText k.toText = .ok k := by
  cases h with
  | read h =>
    exact PublicKey.ofText_toText
      (Key.PublicDocument.decode_eq_ok_iff.mp (mapError_eq_ok_iff.mp h)).2
  | generated pair =>
    exact PublicKey.ofText_toText (Ed25519.publicKey?_publicKeyOfSeed pair.seed)

end PublicKey

namespace Signature

/-- A signature that was read has the text that it was read from, in lower case. -/
theorem toText_of_ofText {text : String} {s : Signature} (h : ofText text = .ok s) :
    s.toText = text.toLower :=
  (Hex.decode_eq_ok_iff.mp (ofText_eq_ok_iff.mp h)).symm

/-- **The texts that are signatures are those of 128 digits.** -/
theorem exists_ofText_iff (text : String) :
    (∃ s, ofText text = .ok s) ↔ text.length = 128 ∧ ∀ c ∈ text.toList, Hex.IsDigit c := by
  simp only [ofText_eq_ok_iff]
  constructor
  · rintro ⟨s, h⟩
    have hhex := (Hex.isHex_iff_exists_decode text).mpr ⟨_, h⟩
    exact ⟨by rw [Hex.length_eq_of_decode h, s.bytes.length_eq],
      ((Hex.isHex_iff_characters text).mp hhex).2⟩
  · rintro ⟨h128, hdigits⟩
    obtain ⟨bytes, h⟩ := (Hex.isHex_iff_exists_decode text).mp
      ((Hex.isHex_iff_characters text).mpr ⟨by rw [h128], hdigits⟩)
    have h64 : bytes.length = 64 := by
      have := Hex.length_eq_of_decode h
      omega
    exact ⟨⟨⟨bytes, h64⟩⟩, h⟩

end Signature

namespace Json

/-! ## Keys and signatures -/

/-- **Public keys and signatures are the same in JSON as in plain text.**  A signature is read from
128 digits, and from nothing else, and its text is that text in lower case. -/
theorem json_agrees_with_text :
    AgreesWithText PublicKey.Made PublicKey.ofText PublicKey.toText PublicKey.ofJson
      PublicKey.ofJsonValue PublicKey.toJson ∧
    AgreesWithText (fun _ ↦ True) Signature.ofText Signature.toText Signature.ofJson
      Signature.ofJsonValue Signature.toJson ∧
    ∀ text, ((∃ s, Signature.ofText text = .ok s) ↔
        text.length = 128 ∧ ∀ c ∈ text.toList, Hex.IsDigit c) ∧
      ∀ s, Signature.ofText text = .ok s → s.toText = text.toLower :=
  ⟨agreesWithText (fun _ ↦ rfl) (fun _ h ↦ h.ofText_toText) fun _ _ ↦ escapeChar_of_mem_encode,
    agreesWithText (fun _ ↦ rfl) (fun s _ ↦ s.ofText_toText) fun _ _ ↦ escapeChar_of_mem_encode,
    fun text ↦ ⟨Signature.exists_ofText_iff text, fun _ ↦ Signature.toText_of_ofText⟩⟩

/-- A key whose first digit is spelled by number, with blanks around, and whose `y` is not reduced;
and a string that is no signature because of the line break that an escape puts into it. -/
theorem json_agrees_with_text_escapes :
    let tail := "02a300506032b6570032100" ++
      "eeffffffffffffffffffffffffffffffffffffffffffffffffffffffffffff7f"
    (∃ k, PublicKey.ofJson (" \"\\u0033" ++ tail ++ "\"\n") = .ok k ∧
      PublicKey.ofText ("3" ++ tail) = .ok k ∧ PublicKey.ofJson k.toJson = .ok k) ∧
    ∃ e, Signature.ofJson "\"\\u0033\\n\"" = .error e ∧
      e.message "\"\\u0033\\n\"" =
        "Invalid input format: invalid hex character '\\n' at index 1" := by
  intro tail
  let k : PublicKey := ⟨Octets.ofNat 32 (Curve.prime + 1), Curve.Point.identity⟩
  have hk : PublicKey.ofText ("3" ++ tail) = .ok k := by decide +kernel
  have hspells : Spells (tail.toList ++ ['"', '\n']) tail.toList ['\n'] := by
    have hplain : tail.toList.flatMap escapeChar = tail.toList := by decide +kernel
    have hread := readString_flatMap_escapeChar tail.toList ['\n']
    rw [hplain] at hread
    exact spells_of_readString hread
  have hkey : Denotes (" \"\\u0033" ++ tail ++ "\"\n") (.text ("3" ++ tail)) := by
    have hdigit : fourDigits? '0' '0' '3' '3' = some '3'.toNat := by decide
    have hform := ValueForm.text (.number hdigit (by decide) (by decide) hspells)
    have hvalue : String.ofList (Char.ofNat '3'.toNat :: tail.toList) = "3" ++ tail := by
      rw [← String.toList_inj]
      simp
    rw [hvalue] at hform
    exact ⟨_, ['\n'], ⟨[' '], by simp, by simp [isBlank]⟩, hform,
      ⟨['\n'], rfl, by simp [isBlank]⟩⟩
  have hsignature : Denotes "\"\\u0033\\n\"" (.text "3\n") := by
    have hdigit : fourDigits? '0' '0' '3' '3' = some '3'.toNat := by decide
    have hbreak : simpleEscape? 'n' = some '\n' := by decide
    have hspells : Spells ['\\', 'u', '0', '0', '3', '3', '\\', 'n', '"'] ['3', '\n'] [] :=
      .number hdigit (by decide) (by decide) (.letter hbreak .close)
    exact ⟨_, [], .refl _, .text hspells, .refl _⟩
  obtain ⟨hkeys, hsignatures, -⟩ := json_agrees_with_text
  refine ⟨⟨k, (hkeys.ofJson_iff _ _ hkey k).mpr hk, hk,
    hkeys.ofJson_toJson k (PublicKey.made_of_ofText hk)⟩, ?_⟩
  have hfails : Signature.ofText "3\n" = .error (.invalidInput (.notHex (.badDigit 10 1))) := by
    decide +kernel
  obtain ⟨e, he, hmessage⟩ := hsignatures.ofJson_fails _ _ hsignature _ hfails
  exact ⟨e, he, hmessage⟩

end Json

end HexSigner
