import HexSigner.Proofs.Ed25519
import HexSigner.Proofs.Text.LetterCase

/-!
# The texts of public keys

A public key has one text, up to the case of letters: the twelve bytes of the header and the 32
bytes of the key, in hexadecimal (`decode_eq_ok_encode_iff`).  The bytes have to encode a point, and
they are kept as they were given; where they are not the ones that writing the point would choose,
two keys have the same point and are different keys all the same.

So a text, its bytes and its key determine each other, and the main result of this file
(`ofText_accepts`) says so in both directions.
-/

set_option autoImplicit false

namespace HexSigner.PublicKey

open Curve

/-- The texts of a document are those that begin with the header and go on with the key. -/
theorem decode_eq_ok_encode_iff {text : String} (bytes : Octets 32) :
    Hex.decode text = .ok (Key.PublicDocument.encode bytes) ↔
      text.toLower = "302a300506032b6570032100" ++ Hex.encode bytes.toList := by
  have hheader : Hex.encode Key.PublicDocument.header = "302a300506032b6570032100" := by
    decide +kernel
  rw [Hex.decode_eq_ok_iff, Key.PublicDocument.encode, Hex.encode_append, hheader]

/-- A key that was read has the text that it was read from, in lower case. -/
theorem toText_of_ofText {text : String} {k : PublicKey} (h : ofText text = .ok k) :
    k.toText = text.toLower :=
  (Hex.decode_eq_ok_iff.mp (ofText_eq_ok_iff.mp h).1).symm

/-- Keys that were read are the same key if their bytes are. -/
theorem eq_iff_bytes_of_ofText {text text' : String} {k k' : PublicKey} (h : ofText text = .ok k)
    (h' : ofText text' = .ok k') : k = k' ↔ k.bytes = k'.bytes := by
  refine ⟨fun heq ↦ heq ▸ rfl, fun heq ↦ ?_⟩
  have hk := (ofText_eq_ok_iff.mp h).2
  rw [heq, (ofText_eq_ok_iff.mp h').2, Option.some_inj] at hk
  exact hk.symm

/-- **The texts that are public keys.**  A text is read if and only if it is, up to the case of its
letters, the header and 32 bytes that encode a point.  The key then has these bytes, as they were
given; its document is what the text stands for, and its text is the text in lower case, from which
it is read back.  Two texts are read as the same key if and only if they differ in the case of
letters only. -/
theorem ofText_accepts (text : String) :
    ((∃ k, ofText text = .ok k) ↔
      ∃ (bytes : Octets 32) (p : Point),
        text.toLower = "302a300506032b6570032100" ++ Hex.encode bytes.toList ∧
          Generous.Decodes bytes p) ∧
    ∀ k, ofText text = .ok k →
      (∀ bytes : Octets 32,
        text.toLower = "302a300506032b6570032100" ++ Hex.encode bytes.toList → k.bytes = bytes) ∧
      Hex.decode text = .ok k.toDocument ∧ k.toText = text.toLower ∧ ofText k.toText = .ok k ∧
      ∀ text' k', ofText text' = .ok k' →
        (k = k' ↔ text.toLower = text'.toLower) ∧ (k = k' ↔ k.bytes = k'.bytes) := by
  constructor
  · constructor
    · rintro ⟨k, hk⟩
      exact ⟨k.bytes, k.point, (decode_eq_ok_encode_iff k.bytes).mp (ofText_eq_ok_iff.mp hk).1,
        Point.decode?_eq_some_iff.mp (decode?_of_ofText hk)⟩
    · rintro ⟨bytes, p, htext, hp⟩
      exact ⟨⟨bytes, p⟩, ofText_eq_ok_iff.mpr ⟨(decode_eq_ok_encode_iff bytes).mpr htext,
        Ed25519.publicKey?_eq_some_iff.mpr (Point.decode?_eq_some_iff.mpr hp)⟩⟩
  · intro k hk
    obtain ⟨hdocument, hpoint⟩ := ofText_eq_ok_iff.mp hk
    refine ⟨fun bytes hbytes ↦ ?_, hdocument, toText_of_ofText hk, ofText_toText hpoint, ?_⟩
    · have hsame := (decode_eq_ok_encode_iff bytes).mpr hbytes
      rw [hdocument, Except.ok.injEq] at hsame
      exact Octets.ext (List.append_cancel_left hsame)
    · intro text' k' hk'
      refine ⟨⟨fun heq ↦ ?_, fun heq ↦ ?_⟩, eq_iff_bytes_of_ofText hk hk'⟩
      · rw [← toText_of_ofText hk, ← toText_of_ofText hk', heq]
      · have hsame := ofText_toText hpoint
        rw [toText_of_ofText hk, heq, ← toText_of_ofText hk',
          ofText_toText (ofText_eq_ok_iff.mp hk').2, Except.ok.injEq] at hsame
        exact hsame.symm

/-- The key whose `y` is the prime and one more has the neutral point, like the key whose `y` is
one; written in capitals it is read, it keeps its bytes, and its text is in lower case. -/
theorem ofText_accepts_unreduced :
    let text := "302A300506032B6570032100" ++
      "EEFFFFFFFFFFFFFFFFFFFFFFFFFFFFFFFFFFFFFFFFFFFFFFFFFFFFFFFFFFFF7F"
    let k : PublicKey := ⟨Octets.ofNat 32 (prime + 1), Point.identity⟩
    ofText text = .ok k ∧ k.toText = text.toLower ∧ ofText k.toText = .ok k ∧
      ∀ text' k', ofText text' = .ok k' → k'.bytes = Octets.ofNat 32 1 →
        text.toLower ≠ text'.toLower := by
  intro text k
  have hk : ofText text = .ok k := by decide +kernel
  obtain ⟨-, -, htext, hback, hsame⟩ := (ofText_accepts text).2 k hk
  refine ⟨hk, htext, hback, fun text' k' hk' hbytes heq ↦ ?_⟩
  obtain ⟨hiff, hiff'⟩ := hsame text' k' hk'
  have hone := hiff'.mp (hiff.mpr heq)
  rw [hbytes] at hone
  exact absurd hone (by decide +kernel)

end HexSigner.PublicKey
