import HexSigner.Text.Quoted
import Mathlib.Tactic.SplitIfs

/-!
# How the first 256 characters are quoted

A message that complains about a byte quotes the character whose code point is the value of the
byte, so only the first 256 characters ever stand there.  For these the tables of Unicode come down
to three ranges that do not show (`isPrintable_iff`), and what stands between the quotation marks
can be said without the tables: `betweenQuotes` does so, and `quotedChar_eq` says that it is right.
-/

set_option autoImplicit false

namespace HexSigner.Text

/-! ## Which characters show -/

/-- Ranges that begin behind a character do not matter for it. -/
theorem inRanges_filter {n : Nat} {c : Char} (h : c.toNat < n) (ranges : List (Nat × Nat)) :
    inRanges (ranges.filter (·.1 < n)) c = inRanges ranges c := by
  rw [inRanges, inRanges, List.any_filter]
  congr 1
  funext r
  by_cases hr : r.1 < n
  · simp [hr]
  · have hbehind : ¬r.1 ≤ c.toNat := by omega
    simp [hr, hbehind]

theorem isPrintable_iff {c : Char} (h : c.toNat < 256) :
    isPrintable c = true ↔ ' ' ≤ c ∧ c ≤ '~' ∨ '\u00a1' ≤ c ∧ c ≠ '\u00ad' := by
  have hranges : unprintableRanges.filter (·.1 < 256) =
      [(0x0, 0x1f), (0x7f, 0xa0), (0xad, 0xad)] := by
    decide +kernel
  have hspecial : c ≠ '\u00ad' ↔ c.toNat ≠ 0xad := not_congr Char.toNat_inj.symm
  have hle : ∀ d e : Char, d ≤ e ↔ d.toNat ≤ e.toNat := fun _ _ ↦ Iff.rfl
  rw [isPrintable, ← inRanges_filter h, hranges, hspecial, hle, hle, hle]
  simp only [inRanges, List.any_cons, List.any_nil, Char.reduceToNat]
  split <;> simp <;> omega

/-! ## Between the quotation marks -/

/-- The characters with a short escape. -/
def shortEscapes : List (Char × String) :=
  [('\x00', "\\0"), ('\t', "\\t"), ('\r', "\\r"), ('\n', "\\n"), ('\\', "\\\\"), ('\'', "\\'")]

/-- How one of the first 256 characters shows between single quotes: as itself, or else by a short
escape or by its number. -/
def betweenQuotes (c : Char) : String :=
  match shortEscapes.lookup c with
  | some escape => escape
  | none =>
    if ' ' ≤ c ∧ c ≤ '~' ∨ '\u00a1' ≤ c ∧ c ≠ '\u00ad' then String.singleton c
    else "\\u\x7b" ++ String.ofList (Nat.toDigits 16 c.toNat) ++ "\x7d"

theorem escapeChar_of_lookup_eq_none {c : Char} (h : shortEscapes.lookup c = none) :
    escapeChar '\'' c =
      if isPrintable c && !extendsGrapheme c then [c] else codePointEscape c := by
  simp only [shortEscapes, List.lookup_eq_none_iff, List.forall_mem_cons, bne_iff_ne] at h
  obtain ⟨hnul, htab, hreturn, hline, hslash, hquote, -⟩ := h
  rw [escapeChar, if_neg hnul, if_neg htab, if_neg hreturn, if_neg hline,
    if_neg (not_or.mpr ⟨hslash, hquote⟩)]

/-- **A message quotes one of the first 256 characters as it is shown.** -/
theorem quotedChar_eq {c : Char} (h : c.toNat < 256) :
    quotedChar c = "'" ++ betweenQuotes c ++ "'" := by
  have hextends : extendsGrapheme c = false := if_pos (by omega)
  rw [← String.toList_inj, quotedChar, betweenQuotes]
  cases hlookup : shortEscapes.lookup c with
  | some escape =>
    have hall : ∀ p ∈ shortEscapes, escapeChar '\'' p.1 = p.2.toList := by decide +kernel
    obtain ⟨front, back, hsplit, -⟩ := List.lookup_eq_some_iff.mp hlookup
    have hescape : escapeChar '\'' c = escape.toList :=
      hall (c, escape) (hsplit ▸ List.mem_append_right front List.mem_cons_self)
    simp [hescape]
  | none =>
    rw [escapeChar_of_lookup_eq_none hlookup, hextends, Bool.not_false, Bool.and_true]
    simp only [isPrintable_iff h]
    split
    · simp
    · simp [codePointEscape]

end HexSigner.Text
