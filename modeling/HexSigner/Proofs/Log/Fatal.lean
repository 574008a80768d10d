import HexSigner.Log.Filter
import Mathlib.Tactic.ByContra

/-!
# When a filter is fatal

A directive is told apart in its text without the white space at the ends, and its parts are cut out
of the whole text at the places found there.  So white space in front moves every place, and one of
them can get into the middle of a character.

That is the only way.  A place that was not moved is where a character begins
(`straddled?_append`), and moved places still are where every character is a single byte
(`straddled?_of_ascii`).  `Source.IsAligned` is what the two have in common, and all that reading a
directive needs in order not to be fatal (`Directive.notFatal_ofSource`).  A filter is fatal only through one
of its directives (`Filter.isShifted_of_choose`).
-/

set_option autoImplicit false

namespace HexSigner

/-! ## Places -/

namespace Text

theorem byteLength_append (cs ds : List Char) :
    byteLength (cs ++ ds) = byteLength cs + byteLength ds := by
  induction cs with
  | nil => simp [byteLength]
  | cons c cs ih => simp only [byteLength, List.cons_append, List.foldr_cons] at ih ⊢; omega

/-- No character begins before the text does. -/
theorem straddled?_of_le {place offset : Nat} (h : place ≤ offset) (cs : List Char) :
    straddled? place offset cs = none := by
  induction cs generalizing offset with
  | nil => rfl
  | cons c cs ih =>
    rw [straddled?, if_neg fun hplace ↦ Nat.not_lt.mpr h hplace.1]
    exact ih (Nat.le_trans h (Nat.le_add_right _ _))

/-- Where a part of a text ends, a character ends. -/
theorem straddled?_append (offset : Nat) (cs ds : List Char) :
    straddled? (offset + byteLength cs) offset (cs ++ ds) = none := by
  induction cs generalizing offset with
  | nil => exact straddled?_of_le (Nat.le_refl _) ds
  | cons c cs ih =>
    have hplace : offset + byteLength (c :: cs) = offset + c.utf8Size + byteLength cs := by
      simp only [byteLength, List.foldr_cons]
      omega
    rw [List.cons_append, straddled?, hplace, if_neg (by omega)]
    exact ih _

/-- A character of one byte has no middle. -/
theorem straddled?_of_ascii {cs : List Char} (h : ∀ c ∈ cs, c.utf8Size ≤ 1) (place offset : Nat) :
    straddled? place offset cs = none := by
  induction cs generalizing offset with
  | nil => rfl
  | cons c cs ih =>
    have hc := h c List.mem_cons_self
    rw [straddled?, if_neg (by omega)]
    exact ih (fun d hd ↦ h d (List.mem_cons_of_mem c hd)) _

end Text

namespace Log

open Text

/-! ## Directives -/

namespace Directive

/-- Every place in what is seen is a place between characters of the whole. -/
def Source.IsAligned (s : Source) : Prop :=
  ∀ left, left <:+ s.seen → straddled? (s.place left) 0 s.whole = none

theorem Source.isAligned_of_isPrefix {s : Source} (h : s.seen <+: s.whole) : s.IsAligned := by
  rintro left ⟨front, hfront⟩
  obtain ⟨back, hback⟩ := h
  have hplace : s.place left = 0 + byteLength front := by
    rw [place, ← hfront, byteLength_append]
    omega
  rw [hplace, ← hback, ← hfront, List.append_assoc]
  exact straddled?_append 0 front (left ++ back)

theorem Source.isAligned_of_ascii {s : Source} (h : ∀ c ∈ s.whole, c.utf8Size ≤ 1) :
    s.IsAligned := fun _ _ ↦ straddled?_of_ascii h _ _

/-- Reading cuts out no part with an end in the middle of a character. -/
def NotFatal {α : Type} (reading : Except Fault α) : Prop :=
  ∀ cut, reading ≠ .error (.badCut cut)

section NotFatal

variable {α β : Type}

theorem notFatal_ok (a : α) : NotFatal (.ok a) := fun _ ↦ nofun

theorem notFatal_malformed : NotFatal (.error .malformed : Except Fault α) := fun _ ↦ nofun

theorem notFatal_badLevel : NotFatal (.error .badLevel : Except Fault α) := fun _ ↦ nofun

theorem NotFatal.bind {reading : Except Fault α} {f : α → Except Fault β} (h : NotFatal reading)
    (hf : ∀ a, NotFatal (f a)) : NotFatal (reading >>= f) := by
  cases reading with
  | error fault => exact fun cut hfault ↦ h cut (congrArg _ (Except.error.inj hfault))
  | ok a => exact hf a

end NotFatal

/-- What begins where a character is met in what is left, and what is behind that character. -/
theorem suffix_of_dropWhile {whole left left' : List Char} {c : Char} {p : Char → Bool}
    (hleft : left <:+ whole) (h : left.dropWhile p = c :: left') :
    c :: left' <:+ whole ∧ left' <:+ whole := by
  have hstop : c :: left' <:+ whole := h ▸ (List.dropWhile_suffix p).trans hleft
  exact ⟨hstop, (List.suffix_cons c left').trans hstop⟩

theorem notFatal_fieldOf (text : List Char) : NotFatal (fieldOf text) := by
  intro cut
  rw [fieldOf]
  split
  · next value _ _ =>
    dsimp only
    split
    · nofun
    · cases Pattern.check value <;> nofun
  · nofun

section Aligned

variable {s : Source} (h : s.IsAligned)
include h

theorem notFatal_part (p : Part) {start stop : List Char} (hstart : start <:+ s.seen)
    (hstop : stop <:+ s.seen) : NotFatal (s.part p start stop) := by
  rw [Source.part, Source.cut, cut, h start hstart, h stop hstop]
  exact notFatal_ok _

theorem notFatal_partFrom (p : Part) {start : List Char} (hstart : start <:+ s.seen) :
    NotFatal (s.partFrom p start) := by
  have hend : straddled? (byteLength s.whole) 0 s.whole = none := by
    have hplace := straddled?_append 0 s.whole []
    rwa [Nat.zero_add, List.append_nil] at hplace
  rw [Source.partFrom, Source.cut, cut, h start hstart, hend]
  exact notFatal_ok _

theorem notFatal_readLevel (d : Directive) {left : List Char} (hleft : left <:+ s.seen) :
    NotFatal (d.readLevel s left) := by
  refine (notFatal_partFrom h _ hleft).bind fun text ↦ ?_
  split
  · exact notFatal_ok _
  · split
    · exact notFatal_ok _
    · exact notFatal_badLevel

theorem notFatal_readAfterSpan (d : Directive) {left : List Char} (hleft : left <:+ s.seen) :
    NotFatal (d.readAfterSpan s left) := by
  rw [readAfterSpan.eq_def]
  split
  · exact notFatal_ok _
  · exact notFatal_readLevel h d ((List.suffix_cons _ _).trans hleft)
  · exact notFatal_malformed

theorem notFatal_readField (d : Directive) {left : List Char} (hleft : left <:+ s.seen) :
    NotFatal (d.readField s left) := by
  rw [readField]
  split
  · exact notFatal_malformed
  · next hdrop =>
    obtain ⟨hstop, hbehind⟩ := suffix_of_dropWhile hleft hdrop
    refine (notFatal_part h _ hleft hstop).bind fun text ↦ ?_
    split
    · exact notFatal_malformed
    · refine (notFatal_fieldOf text).bind fun field ↦ ?_
      split
      · exact notFatal_readAfterSpan h _ ((List.suffix_cons _ _).trans hbehind)
      · exact notFatal_malformed

theorem notFatal_readSpan (d : Directive) {left : List Char} (hleft : left <:+ s.seen) :
    NotFatal (d.readSpan s left) := by
  rw [readSpan]
  split
  · exact notFatal_malformed
  · next hdrop =>
    obtain ⟨hstop, hbehind⟩ := suffix_of_dropWhile hleft hdrop
    refine (notFatal_part h _ hleft hstop).bind fun name ↦ ?_
    split
    · exact notFatal_readAfterSpan h _ hbehind
    · exact notFatal_readField h _ hbehind

/-- **A directive whose places are all between characters is not fatal.** -/
theorem notFatal_ofSource : NotFatal (ofSource s) := by
  have hseen : s.seen <:+ s.seen := List.suffix_refl _
  rw [ofSource]
  split
  · exact notFatal_malformed
  · next left hleft => exact notFatal_readSpan h _ (hleft ▸ List.suffix_cons _ _)
  · split
    · exact notFatal_malformed
    · split
      · exact notFatal_ok _
      · next hdrop =>
        obtain ⟨hstop, hbehind⟩ := suffix_of_dropWhile hseen hdrop
        refine (notFatal_part h _ hseen hstop).bind fun target ↦ ?_
        split
        · exact notFatal_readLevel h _ hbehind
        · exact notFatal_readSpan h _ hbehind

end Aligned

/-- White space in front of a directive that has characters of more than one byte. -/
def IsShifted (text : String) : Prop :=
  (∃ c, text.toList.head? = some c ∧ isWhiteSpace c = true) ∧ ∃ c ∈ text.toList, 1 < c.utf8Size

theorem isPrefix_trim {cs : List Char} (h : ∀ c, cs.head? = some c → isWhiteSpace c = false) :
    trim cs <+: cs := by
  have hfront : cs.dropWhile isWhiteSpace = cs := by
    cases cs with
    | nil => rfl
    | cons c cs => rw [List.dropWhile_cons, h c rfl]; rfl
  rw [trim, hfront, ← List.reverse_suffix, List.reverse_reverse]
  exact List.dropWhile_suffix _

/-- **Only white space in front makes a directive fatal**, and only where it has characters of more
than one byte. -/
theorem isShifted_of_ofText {text : String} {cut : BadCut}
    (h : ofText text = .error (.badCut cut)) : IsShifted text := by
  have hnot : ¬(Source.ofText text).IsAligned := fun haligned ↦
    notFatal_ofSource haligned cut h
  constructor
  · by_contra hfront
    refine hnot (Source.isAligned_of_isPrefix (isPrefix_trim fun c hc ↦ ?_))
    exact Bool.eq_false_iff.mpr fun hspace ↦ hfront ⟨c, hc, hspace⟩
  · by_contra hascii
    refine hnot (Source.isAligned_of_ascii fun c hc ↦ ?_)
    exact Nat.le_of_not_lt fun hsize ↦ hascii ⟨c, hc, hsize⟩

end Directive

/-! ## Filters -/

namespace Filter

/-- A list of directives that cannot be read has one that cannot. -/
theorem exists_of_mapM {parts : List String} {fault : Directive.Fault}
    (h : parts.mapM Directive.ofText = .error fault) :
    ∃ part ∈ parts, Directive.ofText part = .error fault := by
  induction parts with
  | nil => cases h
  | cons part parts ih =>
    rw [List.mapM_cons] at h
    cases hpart : Directive.ofText part with
    | error f =>
      rw [hpart] at h
      cases h
      exact ⟨part, List.mem_cons_self, hpart⟩
    | ok d =>
      cases hparts : parts.mapM Directive.ofText with
      | error f =>
        rw [hpart, hparts] at h
        cases h
        obtain ⟨part', hmem, hpart'⟩ := ih hparts
        exact ⟨part', List.mem_cons_of_mem _ hmem, hpart'⟩
      | ok ds =>
        rw [hpart, hparts] at h
        cases h

theorem exists_of_ofText? {text : String} {cut : Directive.BadCut}
    (h : ofText? text = .error cut) :
    ∃ part ∈ parts text, Directive.ofText part = .error (.badCut cut) := by
  rw [ofText?] at h
  split at h
  · cases h
  · next hparts =>
    cases h
    exact exists_of_mapM hparts
  · cases h

theorem exists_of_readDirectives {parts : List String} {cut : Directive.BadCut}
    (h : (readDirectives parts).1 = .error cut) :
    ∃ part ∈ parts, Directive.ofText part = .error (.badCut cut) := by
  induction parts with
  | nil => cases h
  | cons part parts ih =>
    rw [readDirectives] at h
    split at h
    · next hpart =>
      cases h
      exact ⟨part, List.mem_cons_self, hpart⟩
    · obtain ⟨part', hmem, hpart'⟩ := ih h
      exact ⟨part', List.mem_cons_of_mem _ hmem, hpart'⟩
    · have hrest : (readDirectives parts).1 = .error cut := by
        cases hds : (readDirectives parts).1 with
        | error c => simpa [hds, Except.map] using h
        | ok ds => simp [hds, Except.map] at h
      obtain ⟨part', hmem, hpart'⟩ := ih hrest
      exact ⟨part', List.mem_cons_of_mem _ hmem, hpart'⟩

/-- **A fatal filter has a directive with white space in front and a character of more than one
byte**, in the text that the environment gives or in the one that the settings give. -/
theorem isShifted_of_choose {requested : Option String} {level : String}
    {cut : Directive.BadCut} (h : (choose requested level).filter = .error cut) :
    ∃ text, (requested = some text ∨ level = text) ∧
      ∃ part ∈ parts text, Directive.IsShifted part := by
  have hread : (read level).filter = .error cut →
      ∃ part ∈ parts level, Directive.IsShifted part := by
    intro hlevel
    have hdirectives : (readDirectives (parts level)).1 = .error cut := by
      cases hds : (readDirectives (parts level)).1 with
      | error c => simpa [read, hds, Except.map] using hlevel
      | ok ds => simp [read, hds, Except.map] at hlevel
    obtain ⟨part, hmem, hpart⟩ := exists_of_readDirectives hdirectives
    exact ⟨part, hmem, Directive.isShifted_of_ofText hpart⟩
  cases requested with
  | none => exact ⟨level, .inr rfl, hread h⟩
  | some text =>
    cases htext : ofText? text with
    | error c =>
      obtain ⟨part, hmem, hpart⟩ := exists_of_ofText? htext
      exact ⟨text, .inl rfl, part, hmem, Directive.isShifted_of_ofText hpart⟩
    | ok filter? =>
      rw [choose, Option.mapM_some, htext] at h
      cases filter? with
      | none => exact ⟨level, .inr rfl, hread h⟩
      | some f => cases h

end Filter

end Log

end HexSigner
