import HexSigner.Proofs.Failure
import HexSigner.Proofs.Text.LetterCase

/-!
# No private key continues another

A private key document may have two versions and any number of fields, so private keys have many
lengths.  Each of them says its own length all the same: a document is one element, the header of
which accounts for every byte that follows (`Der.ElementForm.eq_nil_of_append`).  Hexadecimal text
is read from left to right (`Hex.exists_of_decode_append`), so what goes for documents goes for
their texts, and a private key is never the beginning of another one
(`eq_empty_of_isPrivateKey_append`).

This says what becomes of a key that was copied with a piece missing, or with something else behind
it: signing refuses it as a key (`refuses_shortened_lengthened`).  It does not matter whether the
piece is made of whole bytes, or of digits at all.
-/

set_option autoImplicit false

namespace HexSigner

open Der

/-- No document with a seed is the beginning of another, whatever the seeds. -/
theorem Key.PrivateDocument.SeedForm.eq_nil_of_append {document rest : List UInt8}
    {seed seed' : Octets 32} (h : SeedForm document seed) (h' : SeedForm (document ++ rest) seed') :
    rest = [] := by
  obtain ⟨_, _, hform, -⟩ := h
  obtain ⟨_, _, hform', -⟩ := h'
  exact hform.eq_nil_of_append hform'

/-- **Private keys are prefix-free.** -/
theorem eq_empty_of_isPrivateKey_append {text extra : String} (h : IsPrivateKey text)
    (h' : IsPrivateKey (text ++ extra)) : extra = "" := by
  obtain ⟨document, seed, hdocument, hform⟩ := h
  obtain ⟨document', seed', hdocument', hform'⟩ := h'
  obtain ⟨rest, rfl, hrest⟩ := Hex.exists_of_decode_append hdocument hdocument'
  obtain rfl := hform.eq_nil_of_append hform'
  have hextra := congrArg String.toList (Hex.decode_eq_ok_iff.mp hrest)
  rw [Hex.toList_toLower] at hextra
  exact String.toList_eq_nil_iff.mp (List.map_eq_nil_iff.mp hextra)

namespace Signer

theorem acceptsKey_iff_isPrivateKey {privateKey : String} :
    AcceptsKey privateKey ↔ IsPrivateKey privateKey :=
  acceptsKey_iff.trans isPrivateKey_iff.symm

/-- A text that is no private key is refused as a key, whatever there is to sign. -/
theorem exists_sign_eq_invalidKey {privateKey : String} (h : ¬IsPrivateKey privateKey)
    (digest : String) : ∃ fault, sign privateKey digest = .error (.invalidKey fault) := by
  obtain ⟨fault, hfault⟩ := exists_fault_iff.mpr h
  exact ⟨fault, sign_eq_invalidKey_iff.mpr hfault⟩

/-- **A private key can be neither shortened nor lengthened.**  If anything is taken away from the
end of a text that signing accepts as a private key, or anything is put behind it, signing refuses
what comes out as a key, whatever there is to sign. -/
theorem refuses_shortened_lengthened {privateKey : String} (h : AcceptsKey privateKey) :
    (∀ kept removed : String, privateKey = kept ++ removed → removed ≠ "" →
      ∀ digest, ∃ fault, sign kept digest = .error (.invalidKey fault)) ∧
    ∀ added : String, added ≠ "" →
      ∀ digest, ∃ fault, sign (privateKey ++ added) digest = .error (.invalidKey fault) := by
  rw [acceptsKey_iff_isPrivateKey] at h
  refine ⟨?_, fun added hadded digest ↦ exists_sign_eq_invalidKey (fun hlonger ↦ ?_) digest⟩
  · rintro kept removed rfl hremoved digest
    refine exists_sign_eq_invalidKey (fun hshorter ↦ ?_) digest
    exact hremoved (eq_empty_of_isPrivateKey_append hshorter h)
  · exact hadded (eq_empty_of_isPrivateKey_append h hlonger)

/-- A document in version 2 without its last field, and the whole document with half a digit too
many or with a character that is none. -/
theorem refuses_shortened_lengthened_vector :
    let document := vectorDocumentWithFields
    AcceptsKey (Hex.encode document) ∧ Hex.encode (document.drop 87) ≠ "" ∧
    (∃ fault, sign (Hex.encode (document.take 87)) "" = .error (.invalidKey fault)) ∧
    (∃ fault, sign (Hex.encode document ++ "0") "" = .error (.invalidKey fault)) ∧
      ∃ fault, sign (Hex.encode document ++ "é") "zz" = .error (.invalidKey fault) := by
  intro document
  have hdecode : Key.PrivateDocument.decode document = .ok vectorSeed := by decide +kernel
  have haccepts : AcceptsKey (Hex.encode document) :=
    acceptsKey_iff.mpr ⟨_, KeyPair.ofText_encode hdecode⟩
  have hcut : Hex.encode document =
      Hex.encode (document.take 87) ++ Hex.encode (document.drop 87) := by
    rw [← Hex.encode_append, List.take_append_drop]
  have hremoved : Hex.encode (document.drop 87) ≠ "" := by decide +kernel
  obtain ⟨hshortened, hlengthened⟩ := refuses_shortened_lengthened haccepts
  exact ⟨haccepts, hremoved, hshortened _ _ hcut hremoved "", hlengthened "0" (by decide) "",
    hlengthened "é" (by decide) "zz"⟩

end Signer

end HexSigner
