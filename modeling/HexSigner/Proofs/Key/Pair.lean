import HexSigner.Key.Pair
import HexSigner.Proofs.Key.PublicDocument
import HexSigner.Proofs.Text.Hex

/-!
# Which texts are keys and signatures

A text is a public key if it is the hexadecimal form of a document that encodes a point, and a
signature if it is that of 64 bytes.  In both cases the text determines the value, and the value
determines the bytes of the text; only the letter case of the text is free.
-/

set_option autoImplicit false

namespace HexSigner

/-! ## Steps that may fail -/

theorem mapError_eq_ok_iff {ε ε' α : Type} {x : Except ε α} {f : ε → ε'} {a : α} :
    x.mapError f = .ok a ↔ x = .ok a := by
  cases x with
  | error e => simp [Except.mapError]
  | ok a' => simp [Except.mapError]

theorem mapError_bind_eq_ok_iff {ε ε' α β : Type} {x : Except ε α} {f : ε → ε'}
    {g : α → Except ε' β} {b : β} :
    x.mapError f >>= g = .ok b ↔ ∃ a, x = .ok a ∧ g a = .ok b := by
  cases x with
  | error e => simp [Except.mapError, bind, Except.bind]
  | ok a => simp [Except.mapError, bind, Except.bind]

/-! ## Public keys -/

namespace PublicKey

/-- **The texts that are public keys.** -/
theorem ofText_eq_ok_iff {text : String} {k : PublicKey} :
    ofText text = .ok k ↔
      Hex.decode text = .ok k.toDocument ∧ Ed25519.publicKey? k.bytes = some k := by
  rw [ofText]
  cases hdoc : Hex.decode text with
  | error f => simp
  | ok document =>
    rw [Except.ok.injEq, toDocument, ← Key.PublicDocument.decode_eq_ok_iff]
    exact mapError_eq_ok_iff

/-- A key that reading can yield is read back from its text. -/
theorem ofText_toText {k : PublicKey} (h : Ed25519.publicKey? k.bytes = some k) :
    ofText k.toText = .ok k :=
  ofText_eq_ok_iff.mpr ⟨Hex.decode_encode k.toDocument, h⟩

theorem decode?_of_ofText {text : String} {k : PublicKey} (h : ofText text = .ok k) :
    Curve.Point.decode? k.bytes = some k.point := by
  obtain ⟨p, hp, hk⟩ := Option.map_eq_some_iff.mp (ofText_eq_ok_iff.mp h).2
  rw [← hk] at hp ⊢
  exact hp

end PublicKey

/-! ## Signatures -/

namespace Signature

/-- **The texts that are signatures.** -/
theorem ofText_eq_ok_iff {text : String} {s : Signature} :
    ofText text = .ok s ↔ Hex.decode text = .ok s.bytes.toList := by
  rw [ofText]
  cases Hex.decode text with
  | error f => simp
  | ok bytes =>
    simp only [ofBytes, Except.ok.injEq]
    rw [← Octets.ofList?_eq_some_iff]
    cases Octets.ofList? 64 bytes with
    | none => simp
    | some o =>
      cases s
      simp

/-- Every signature is read back from its text. -/
theorem ofText_toText (s : Signature) : ofText s.toText = .ok s :=
  ofText_eq_ok_iff.mpr (Hex.decode_encode s.bytes.toList)

theorem commitment_ofParts (commitment response : Octets 32) :
    (ofParts commitment response).commitment = commitment := by
  apply Octets.ext
  exact List.take_left' commitment.length_eq

theorem response_ofParts (commitment response : Octets 32) :
    (ofParts commitment response).response = response := by
  apply Octets.ext
  exact List.drop_left' commitment.length_eq

/-- A signature is its two halves. -/
theorem ofParts_commitment_response (s : Signature) : ofParts s.commitment s.response = s := by
  rw [ofParts, Signature.mk.injEq]
  apply Octets.ext
  exact List.take_append_drop 32 s.bytes.toList

end Signature

end HexSigner
