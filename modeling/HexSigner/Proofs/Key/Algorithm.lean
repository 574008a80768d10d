import HexSigner.Key.Algorithm
import HexSigner.Proofs.Der.Element

/-!
# The grammar of algorithms

An algorithm is a sequence of an object identifier and, possibly, one element of any kind.  Whether
that element is there is decided by looking for it at the end of the sequence, so `parameters` is a
decoder that is read as a whole.
-/

set_option autoImplicit false

namespace HexSigner.Key.Algorithm

open Der Decoder

/-- Nothing, or one element. -/
def ParametersForm (bytes : List UInt8) (present : Bool) : Prop :=
  bytes = [] ∧ present = false ∨ present = true ∧ ∃ tag contents, ElementForm tag contents bytes

/-- The contents of an algorithm: an object identifier and parameters. -/
def ContentsForm (bytes : List UInt8) (algorithm : Algorithm) : Prop :=
  ∃ front back, bytes = front ++ back ∧
    (ElementForm .objectIdentifier algorithm.identifier front ∧
      algorithm.identifier.length ≤ maxIdentifierLength ∧
      isIdentifier algorithm.identifier = true) ∧
    ParametersForm back algorithm.hasParameters

/-- An algorithm. -/
def Form (bytes : List UInt8) (algorithm : Algorithm) : Prop :=
  ∃ contents, ElementForm .sequence contents bytes ∧ ContentsForm contents algorithm

theorem readsWhole_parameters : ReadsWhole parameters ParametersForm := by
  intro r present
  constructor
  · rintro ⟨r', h, hr⟩
    obtain ⟨next, r₁, h₁, h₂⟩ := bind_eq_ok_iff.mp h
    cases h₁
    cases hb : r.bytes with
    | nil =>
      rw [hb] at h₂
      obtain ⟨rfl, rfl⟩ := pure_eq_ok_iff.mp h₂
      exact Or.inl ⟨rfl, rfl⟩
    | cons b rest =>
      rw [hb] at h₂
      obtain ⟨tag, r₂, htag, h₃⟩ := bind_eq_ok_iff.mp h₂
      obtain ⟨_, htook, rfl, -⟩ := (reads_tagOfByte b r tag r₂).mp htag
      cases htook.eq_of_nil
      obtain ⟨a, r₃, hany, h₄⟩ := bind_eq_ok_iff.mp h₃
      obtain ⟨rfl, rfl⟩ := pure_eq_ok_iff.mp h₄
      obtain ⟨t, htook, hform⟩ := (reads_any r a r₃).mp hany
      rw [← hb, htook.bytes_eq hr]
      exact Or.inr ⟨rfl, a.1, a.2, hform⟩
  · rintro (⟨hb, rfl⟩ | ⟨rfl, tag, contents, hform⟩)
    · refine ⟨r, ?_, hb⟩
      rw [parameters, bind_eq_ok_iff]
      exact ⟨none, r, by rw [peek?, hb]; rfl, rfl⟩
    · obtain ⟨r', hany, hr⟩ := (reads_any.readsWhole r (tag, contents)).mpr hform
      refine ⟨r', ?_, hr⟩
      obtain ⟨_, hb, b, l, rfl, htag, -⟩ := hform
      rw [parameters, bind_eq_ok_iff]
      refine ⟨some b, r, by rw [peek?, hb]; rfl, ?_⟩
      exact bind_eq_ok_iff.mpr ⟨tag, r,
        (reads_tagOfByte b r tag r).mpr ⟨[], .nil r, rfl, htag⟩,
        bind_eq_ok_iff.mpr ⟨(tag, contents), r', hany, rfl⟩⟩

theorem reads_decoder : Reads decoder Form := by
  have hcontents := reads_objectIdentifier.located.bind_readsWhole fun identifier ↦
    readsWhole_parameters.located.bind_pure fun present ↦ Algorithm.mk identifier present
  refine (hcontents.congr (H := ContentsForm) fun t a ↦ ?_).sequence
  constructor
  · rintro ⟨front, back, identifier, rfl, hid, present, hpar, rfl⟩
    exact ⟨front, back, rfl, hid, hpar⟩
  · rintro ⟨front, back, rfl, hid, hpar⟩
    exact ⟨front, back, a.identifier, rfl, hid, a.hasParameters, hpar, rfl⟩

/-- The bytes of the algorithm without parameters that has the identifier of Ed25519. -/
def ed25519Bytes : List UInt8 := [0x30, 0x05, 0x06, 0x03, 0x2b, 0x65, 0x70]

/-- **Ed25519 without parameters has one form.** -/
theorem form_ed25519_iff {bytes : List UInt8} :
    Form bytes ⟨ed25519Identifier, false⟩ ↔ bytes = ed25519Bytes := by
  have hid : ∀ front, ElementForm .objectIdentifier ed25519Identifier front ↔
      front = [0x06, 0x03, 0x2b, 0x65, 0x70] := fun front ↦ elementForm_iff rfl (by decide)
  have hcontents : ∀ contents, ContentsForm contents ⟨ed25519Identifier, false⟩ ↔
      contents = [0x06, 0x03, 0x2b, 0x65, 0x70] := by
    intro contents
    constructor
    · rintro ⟨front, back, rfl, ⟨hfront, -, -⟩, (⟨rfl, -⟩ | ⟨h, -⟩)⟩
      · rw [(hid front).mp hfront, List.append_nil]
      · cases h
    · rintro rfl
      exact ⟨_, [], (List.append_nil _).symm, ⟨(hid _).mpr rfl, by decide, by decide⟩,
        Or.inl ⟨rfl, rfl⟩⟩
  constructor
  · rintro ⟨contents, hform, hc⟩
    rw [(hcontents contents).mp hc, elementForm_iff rfl (by decide)] at hform
    exact hform
  · rintro rfl
    exact ⟨_, (elementForm_iff rfl (by decide)).mpr rfl, (hcontents _).mpr rfl⟩

end HexSigner.Key.Algorithm
