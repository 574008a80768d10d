import HexSigner.Der.Element
import HexSigner.Proofs.Der.Element
import HexSigner.Proofs.Octets

/-!
# What is written is the form

The grammar of elements says which bytes an element is, without saying how they come about.  Writing
is the way: where it succeeds it writes the form (`encodeLength_eq_ok_iff`,
`encodeElement_eq_ok_iff`), so there is one form only, and it is the one that the decoders read.

Short contents cannot exceed any length, and the element that is written for them is known in
advance (`encodeElement_of_lt`).
-/

set_option autoImplicit false

namespace HexSigner.Der

/-! ## Numbers -/

theorem bigEndian_reverse (bytes : List UInt8) : bigEndian bytes.reverse = littleEndian bytes := by
  rw [bigEndian, List.foldl_reverse]
  induction bytes with
  | nil => rfl
  | cons b rest ih => rw [List.foldr_cons, ih, littleEndian, Nat.add_comm]

theorem bigEndian_eq (bytes : List UInt8) : bigEndian bytes = littleEndian bytes.reverse := by
  rw [← bigEndian_reverse, List.reverse_reverse]

/-- The digits that a mark announces are enough for any length. -/
theorem lt_pow_lengthMark {n : Nat} (h : n ≤ maxLength) : n < 256 ^ (lengthMark n - 0x80) := by
  have hmax : maxLength = 0xfffffff := rfl
  rw [lengthMark]
  split <;> [skip; split <;> [skip; split]] <;> omega

/-! ## Lengths and elements -/

/-- **Lengths are written in their form.** -/
theorem encodeLength_eq_ok_iff {n : Nat} {bytes : List UInt8} :
    encodeLength n = .ok bytes ↔ LengthForm bytes n := by
  have hbounds := lengthMark_bounds n
  have hmark : (UInt8.ofNat (lengthMark n)).toNat = lengthMark n := by
    rw [UInt8.toNat_ofNat']
    omega
  constructor
  · intro h
    rw [encodeLength] at h
    split at h
    · cases h
    · rename_i hmax
      split at h
      · rename_i hshort
        cases h
        exact (lengthForm_iff hshort).mpr rfl
      · rename_i hlong
        cases h
        have hvalue : bigEndian (littleEndianBytes (lengthMark n - 0x80) n).reverse = n := by
          rw [bigEndian_reverse, littleEndian_littleEndianBytes,
            Nat.mod_eq_of_lt (lt_pow_lengthMark (by omega))]
        have hform := LengthForm.long (UInt8.ofNat (lengthMark n))
          (littleEndianBytes (lengthMark n - 0x80) n).reverse
        rw [hvalue, hmark, List.length_reverse, length_littleEndianBytes] at hform
        exact hform (by omega) (by omega) rfl rfl
  · intro h
    cases h with
    | short b hb =>
      have hmax : ¬maxLength < b.toNat := Nat.not_lt.mpr (le_trans hb.le (by decide))
      rw [encodeLength, if_neg hmax, if_pos hb, UInt8.ofNat_toNat]
    | long mark digits hlong hmax hm hlen =>
      rw [encodeLength, if_neg (by omega), if_neg (by omega), hm, UInt8.ofNat_toNat, ← hlen,
        bigEndian_eq, ← List.length_reverse, littleEndianBytes_littleEndian, List.reverse_reverse]

/-- **Elements are written in their form**, unless they are too long. -/
theorem encodeElement_eq_ok_iff {tag : Tag} {contents bytes : List UInt8}
    (htag : Tag.ofByte tag.toByte = .ok tag) :
    encodeElement tag contents = .ok bytes ↔
      ElementForm tag contents bytes ∧ bytes.length ≤ maxLength := by
  have hstep : encodeElement tag contents = .ok bytes ↔ ∃ length,
      encodeLength contents.length = .ok length ∧ bytes = tag.toByte :: length ++ contents ∧
        bytes.length ≤ maxLength := by
    rw [encodeElement]
    cases encodeLength contents.length with
    | error cause => simp [bind, Except.bind]
    | ok length =>
      simp only [bind, Except.bind, pure, Except.pure, Except.ok.injEq, exists_eq_left']
      split
      · rename_i hmax
        simp only [reduceCtorEq, false_iff, not_and, not_le]
        rintro rfl
        exact hmax
      · rename_i hmax
        rw [Except.ok.injEq, eq_comm, iff_self_and]
        rintro rfl
        exact Nat.le_of_not_lt hmax
  simp only [hstep, encodeLength_eq_ok_iff, ElementForm, HeaderForm, Tag.ofByte_eq_ok_iff htag]
  constructor
  · rintro ⟨length, hlength, rfl, hmax⟩
    exact ⟨⟨tag.toByte :: length, rfl, _, _, rfl, rfl, hlength⟩, hmax⟩
  · rintro ⟨⟨_, rfl, _, length, rfl, rfl, hlength⟩, hmax⟩
    exact ⟨length, hlength, rfl, hmax⟩

/-- Short contents are always written. -/
theorem encodeElement_of_lt (tag : Tag) {contents : List UInt8}
    (htag : Tag.ofByte tag.toByte = .ok tag) (hlen : contents.length < 0x80) :
    encodeElement tag contents = .ok (tag.toByte :: UInt8.ofNat contents.length :: contents) := by
  refine (encodeElement_eq_ok_iff htag).mpr ⟨(elementForm_iff htag hlen).mpr rfl, ?_⟩
  rw [List.length_cons, List.length_cons]
  exact le_trans (by omega : contents.length + 1 + 1 ≤ 0x82) (by decide)

end HexSigner.Der
