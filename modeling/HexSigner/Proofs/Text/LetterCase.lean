import HexSigner.Proofs.Text.Hex
import Mathlib.Data.Fintype.Basic

/-!
# Hexadecimal text and letter case

The texts that stand for given bytes are their lower-case form with letters of either case in it
(`decode_eq_ok_iff`).  So a text that is read determines its bytes, and bytes determine the text up
to the case of its letters: the codec loses nothing else, and adds nothing.

Reading works on bytes and letter case is a matter of characters, so the first step is to match the
two.  A digit is the only byte of its character, because every other character has a first byte
past ASCII; and a character is a digit exactly if its lower-case form is the one that writing would
choose.
-/

set_option autoImplicit false

namespace HexSigner.Hex

/-! ## Characters and their bytes -/

theorem digit?_bounds {b : UInt8} {n : Nat} (h : digit? b = some n) : b.toNat < 128 ∧ n < 16 := by
  rw [digit?] at h
  split_ifs at h
  all_goals
    rw [Option.some_inj] at h
    omega

theorem toNat_digit_lt {n : Nat} (h : n < 16) : (digit n).toNat < 128 := by
  interval_cases n
  all_goals decide

/-- In ASCII the bytes that are read as a digit are those whose lower-case form is that digit. -/
theorem digit?_ofNat_iff (m : Fin 128) (n : Fin 16) :
    digit? (UInt8.ofNat m) = some n.val ↔ (Char.ofNat m).toLower = digit n := by
  have h : ∀ m : Fin 128, ∀ n : Fin 16,
      digit? (UInt8.ofNat m) = some n.val ↔ (Char.ofNat m).toLower = digit n := by
    decide +kernel
  exact h m n

theorem utf8EncodeChar_of_lt {c : Char} (h : c.toNat < 128) :
    String.utf8EncodeChar c = [UInt8.ofNat c.toNat] :=
  if_pos (Nat.le_of_lt_succ h)

/-- The first byte of a character past ASCII is past ASCII. -/
theorem le_head_utf8EncodeChar {c : Char} (h : 128 ≤ c.toNat) :
    ∃ b rest, String.utf8EncodeChar c = b :: rest ∧ 128 ≤ b.toNat := by
  have hv : ¬c.val.toNat ≤ 127 := Nat.not_le.mpr h
  simp only [String.utf8EncodeChar, if_neg hv]
  split_ifs
  all_goals
    refine ⟨_, _, rfl, ?_⟩
    rw [UInt8.toNat_ofNat']
    omega

/-- A character that begins with a digit is in ASCII. -/
theorem toNat_lt_of_digit? {c : Char} {b : UInt8} {rest : List UInt8} {n : Nat}
    (hc : String.utf8EncodeChar c = b :: rest) (hb : digit? b = some n) : c.toNat < 128 := by
  by_contra hlt
  obtain ⟨b', rest', hc', hb'⟩ := le_head_utf8EncodeChar (Nat.le_of_not_lt hlt)
  rw [hc, List.cons.injEq] at hc'
  rw [← hc'.1] at hb'
  have hbound := (digit?_bounds hb).1
  omega

theorem toLower_of_le {c : Char} (h : 128 ≤ c.toNat) : c.toLower = c := by
  refine dif_neg fun hupper ↦ ?_
  have hle : c.toNat ≤ 90 := UInt32.le_iff_toNat_le.mp hupper.2
  omega

/-- **A character is a digit if its lower-case form is the one that is written.** -/
theorem toLower_eq_digit_iff {c : Char} {n : Nat} (hn : n < 16) :
    c.toLower = digit n ↔ ∃ b, String.utf8EncodeChar c = [b] ∧ digit? b = some n := by
  have hiff : ∀ h : c.toNat < 128,
      digit? (UInt8.ofNat c.toNat) = some n ↔ c.toLower = digit n := by
    intro h
    have hm := digit?_ofNat_iff ⟨c.toNat, h⟩ ⟨n, hn⟩
    rwa [Char.ofNat_toNat] at hm
  constructor
  · intro h
    have hlt : c.toNat < 128 := by
      by_contra hge
      rw [toLower_of_le (Nat.le_of_not_lt hge)] at h
      exact hge (h ▸ toNat_digit_lt hn)
    exact ⟨_, utf8EncodeChar_of_lt hlt, (hiff hlt).mpr h⟩
  · rintro ⟨b, hc, hb⟩
    have hlt := toNat_lt_of_digit? hc hb
    rw [utf8EncodeChar_of_lt hlt, List.cons.injEq] at hc
    exact (hiff hlt).mp (hc.1 ▸ hb)

/-! ## Texts -/

/-- A text that begins with a digit begins with a character that is this digit. -/
theorem utf8OfChars_eq_cons {cs : List Char} {b : UInt8} {rest : List UInt8} {n : Nat}
    (hb : digit? b = some n) :
    Text.utf8OfChars cs = b :: rest ↔
      ∃ c cs', cs = c :: cs' ∧ String.utf8EncodeChar c = [b] ∧ Text.utf8OfChars cs' = rest := by
  constructor
  · intro h
    cases cs with
    | nil => cases h
    | cons c cs' =>
      have hcons : Text.utf8OfChars (c :: cs') =
          String.utf8EncodeChar c ++ Text.utf8OfChars cs' := List.flatMap_cons
      cases hc : String.utf8EncodeChar c with
      | nil => exact absurd hc String.utf8EncodeChar_ne_nil
      | cons b' tail =>
        rw [hcons, hc, List.cons_append, List.cons.injEq] at h
        obtain ⟨rfl, h⟩ := h
        -- a digit has no further bytes
        have htail : tail = [] := by
          rw [utf8EncodeChar_of_lt (toNat_lt_of_digit? hc hb), List.cons.injEq] at hc
          exact hc.2.symm
        subst htail
        exact ⟨c, cs', rfl, hc, h⟩
  · rintro ⟨c, cs', rfl, hc, rfl⟩
    rw [Text.utf8OfChars, List.flatMap_cons, hc]
    rfl

theorem utf8OfChars_eq_nil_iff {cs : List Char} : Text.utf8OfChars cs = [] ↔ cs = [] := by
  rw [Text.utf8OfChars, List.flatMap_eq_nil_iff]
  constructor
  · intro h
    exact List.eq_nil_iff_forall_not_mem.mpr fun c hc ↦ String.utf8EncodeChar_ne_nil (h c hc)
  · rintro rfl c hc
    cases hc

/-- Reading takes nothing, or two digits for the first byte and the others for the rest. -/
theorem decodePairs_eq_ok_iff {index : Nat} {digits bytes : List UInt8} :
    decodePairs index digits = .ok bytes ↔
      digits = [] ∧ bytes = [] ∨
      ∃ hi lo tail b rest, digits = hi :: lo :: tail ∧ bytes = b :: rest ∧
        digit? hi = some (b.toNat / 16) ∧ digit? lo = some (b.toNat % 16) ∧
        decodePairs (index + 2) tail = .ok rest := by
  constructor
  · intro h
    cases digits using decodePairs.fun_cases with
    | case1 =>
      cases h
      exact Or.inl ⟨rfl, rfl⟩
    | case2 b => simp [decodePairs] at h
    | case3 hi lo tail hhi => simp [decodePairs, hhi] at h
    | case4 hi lo tail m hlo hhi => simp [decodePairs, hhi, hlo] at h
    | case5 hi lo tail m n hlo hhi =>
      simp only [decodePairs, hhi, hlo] at h
      cases htail : decodePairs (index + 2) tail with
      | error f => simp [htail, Except.map] at h
      | ok rest =>
        simp only [htail, Except.map, Except.ok.injEq] at h
        have hm := (digit?_bounds hhi).2
        have hn := (digit?_bounds hlo).2
        have hbyte : (UInt8.ofNat (16 * m + n)).toNat = 16 * m + n := by
          rw [UInt8.toNat_ofNat']
          omega
        refine Or.inr ⟨hi, lo, tail, _, rest, rfl, h.symm, ?_, ?_, htail⟩
        · rw [hhi, hbyte, Option.some_inj]
          omega
        · rw [hlo, hbyte, Option.some_inj]
          omega
  · rintro (⟨rfl, rfl⟩ | ⟨hi, lo, tail, b, rest, rfl, rfl, hhi, hlo, htail⟩)
    · rfl
    · simp only [decodePairs, hhi, hlo, htail, Except.map, Nat.div_add_mod, UInt8.ofNat_toNat]

/-- The characters of given bytes, by induction on the bytes: two characters are taken for each. -/
theorem decodePairs_utf8OfChars_iff (index : Nat) {cs : List Char} {bytes : List UInt8} :
    decodePairs index (Text.utf8OfChars cs) = .ok bytes ↔
      cs.map Char.toLower = bytes.flatMap byteDigits := by
  induction bytes generalizing index cs with
  | nil =>
    rw [decodePairs_eq_ok_iff, utf8OfChars_eq_nil_iff]
    simp
  | cons b rest ih =>
    have hb := b.toNat_lt
    have hdigits : (b :: rest).flatMap byteDigits =
        digit (b.toNat / 16) :: digit (b.toNat % 16) :: rest.flatMap byteDigits := rfl
    rw [decodePairs_eq_ok_iff, hdigits]
    constructor
    · rintro (⟨-, h⟩ | ⟨hi, lo, tail, _, _, hcs, hbytes, hhi, hlo, htail⟩)
      · cases h
      · obtain ⟨rfl, rfl⟩ := List.cons.inj hbytes
        obtain ⟨c, cs', rfl, hc, hcs'⟩ := (utf8OfChars_eq_cons hhi).mp hcs
        obtain ⟨c', cs'', rfl, hc', rfl⟩ := (utf8OfChars_eq_cons hlo).mp hcs'
        rw [List.map_cons, List.map_cons, (toLower_eq_digit_iff (by omega)).mpr ⟨hi, hc, hhi⟩,
          (toLower_eq_digit_iff (by omega)).mpr ⟨lo, hc', hlo⟩, (ih _).mp htail]
    · intro h
      obtain ⟨c, _, rfl, hc, h⟩ := List.map_eq_cons_iff.mp h
      obtain ⟨c', cs, rfl, hc', hcs⟩ := List.map_eq_cons_iff.mp h
      obtain ⟨hi, hc, hhi⟩ := (toLower_eq_digit_iff (by omega)).mp hc
      obtain ⟨lo, hc', hlo⟩ := (toLower_eq_digit_iff (by omega)).mp hc'
      refine Or.inr ⟨hi, lo, Text.utf8OfChars cs, b, rest, ?_, rfl, hhi, hlo, (ih _).mpr hcs⟩
      exact (utf8OfChars_eq_cons hhi).mpr ⟨c, c' :: cs, rfl, hc,
        (utf8OfChars_eq_cons hlo).mpr ⟨c', cs, rfl, hc', rfl⟩⟩

/-- **Which texts stand for given bytes.**  They are the text that writing would choose, with
letters of either case. -/
theorem decode_eq_ok_iff {text : String} {bytes : List UInt8} :
    decode text = .ok bytes ↔ text.toLower = encode bytes := by
  have hlower : text.toLower.toList = text.toList.map Char.toLower := String.toList_map
  have hchars : text.toLower = encode bytes ↔
      text.toList.map Char.toLower = bytes.flatMap byteDigits := by
    rw [← String.toList_inj, hlower, encode, String.toList_ofList]
  rw [hchars, ← decodePairs_utf8OfChars_iff 0, decode, decodeBytes, Text.utf8]
  split
  · rename_i hodd
    refine ⟨fun h ↦ (by cases h), fun h ↦ ?_⟩
    have heven := ((exists_decodePairs_iff _ _).mp ⟨bytes, h⟩).1
    omega
  · rfl

theorem encode_append (bytes bytes' : List UInt8) :
    encode (bytes ++ bytes') = encode bytes ++ encode bytes' := by
  rw [encode, List.flatMap_append, String.ofList_append]
  rfl

/-- Bytes are told apart by their texts. -/
theorem encode_injective : Function.Injective encode := by
  intro bytes bytes' h
  have hread := decode_encode bytes
  rw [h, decode_encode, Except.ok.injEq] at hread
  exact hread.symm

theorem toList_toLower (text : String) : text.toLower.toList = text.toList.map Char.toLower :=
  String.toList_map

theorem toLower_append (text extra : String) :
    (text ++ extra).toLower = text.toLower ++ extra.toLower := by
  simp only [← String.toList_inj, toList_toLower, String.toList_append, List.map_append]

/-- **Reading goes from left to right.**  If a text and a longer one are both read, the longer one
stands for the same bytes and for those of what was added to it. -/
theorem exists_of_decode_append {text extra : String} {bytes bytes' : List UInt8}
    (h : decode text = .ok bytes) (h' : decode (text ++ extra) = .ok bytes') :
    ∃ rest, bytes' = bytes ++ rest ∧ decode extra = .ok rest := by
  have hboth := decode_eq_ok_iff.mp h'
  rw [toLower_append, decode_eq_ok_iff.mp h] at hboth
  -- there are at least as many bytes, so they can be cut behind the first ones
  have hlength : 2 * bytes.length + extra.toLower.length = 2 * bytes'.length := by
    rw [← length_encode bytes, ← length_encode bytes', ← hboth, String.length_append]
  have hcut := congrArg String.toList hboth
  rw [← List.take_append_drop bytes.length bytes', encode_append, String.toList_append,
    String.toList_append] at hcut
  obtain ⟨hfront, hback⟩ := List.append_inj hcut (by
    rw [String.length_toList, String.length_toList, length_encode, length_encode, List.length_take]
    omega)
  have hbytes := encode_injective (String.toList_inj.mp hfront)
  refine ⟨bytes'.drop bytes.length, ?_, decode_eq_ok_iff.mpr (String.toList_inj.mp hback)⟩
  calc bytes' = bytes'.take bytes.length ++ bytes'.drop bytes.length :=
      (List.take_append_drop _ _).symm
    _ = bytes ++ bytes'.drop bytes.length := by rw [← hbytes]

end HexSigner.Hex
