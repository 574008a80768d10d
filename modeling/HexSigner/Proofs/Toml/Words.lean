import HexSigner.Proofs.Json.Written
import HexSigner.Proofs.Toml.Grammar
import HexSigner.Toml.Document
import Mathlib.Data.Bool.AllAny

/-!
# Blanks, strings and keys are read as the grammar says

What the grammar passes over without a value is skipped, and whatever it has as a string or as a key
is read as such.  A reader takes as much as it can where the grammar leaves it open where to stop.
So most of the theorems here ask that what follows does not go on in the same way: no quote after a
string (`NoQuote`), and no character of a bare key after a key.
-/

set_option autoImplicit false

namespace HexSigner.Toml

/-! ## Blanks, line breaks and comments -/

theorem isBlank_eq_true_iff {c : Char} : isBlank c = true ↔ IsBlank c := by
  simp [isBlank, IsBlank]

theorem ne_of_not {p : Char → Prop} {c d : Char} (h : p c) (hd : ¬p d) : c ≠ d := by
  rintro rfl
  exact hd h

/-- What blanks are not is not a blank. -/
theorem isBlank_eq_false {p : Char → Prop} {c : Char} (h : p c) (hspace : ¬p ' ')
    (htab : ¬p '\t') : isBlank c = false := by
  simp [isBlank, ne_of_not h hspace, ne_of_not h htab]

theorem isText_eq_true_iff {c : Char} : isText c = true ↔ IsText c := by
  simp only [isText, IsText, Bool.or_eq_true, Bool.and_eq_true, decide_eq_true_eq, or_assoc]
  refine or_congr_right ?_
  omega

theorem Blanks.skipBlank_eq {cs rest : List Char} (h : Blanks cs rest) :
    skipBlank cs = skipBlank rest := by
  obtain ⟨blanks, rfl, hblanks⟩ := h
  exact List.dropWhile_append_of_pos fun c hc ↦ isBlank_eq_true_iff.mpr (hblanks c hc)

theorem skipBlank_cons {c : Char} (h : isBlank c = false) (cs : List Char) :
    skipBlank (c :: cs) = c :: cs := by
  rw [skipBlank, List.dropWhile_cons, h]
  rfl

theorem Blanks.skipBlank_cons {c : Char} {cs rest : List Char} (h : Blanks cs (c :: rest))
    (hc : isBlank c = false) : skipBlank cs = c :: rest :=
  h.skipBlank_eq.trans (Toml.skipBlank_cons hc rest)

theorem Break.newline?_eq {cs rest : List Char} (h : Break cs rest) : newline? cs = some rest := by
  cases h <;> rfl

theorem newline?_eq_some_iff {cs rest : List Char} : newline? cs = some rest ↔ Break cs rest := by
  refine ⟨fun h ↦ ?_, Break.newline?_eq⟩
  unfold newline? at h
  split at h
  · cases h
    exact .feed
  · cases h
    exact .both
  · cases h

theorem newline?_cons {c : Char} (hfeed : c ≠ '\n') (hreturn : c ≠ '\r') (cs : List Char) :
    newline? (c :: cs) = none := by
  rw [newline?.eq_def]
  grind

/-- A line break starts with a character that nothing else may start with. -/
theorem Break.head {cs rest : List Char} (h : Break cs rest) :
    ∃ c ds, cs = c :: ds ∧ (c = '\n' ∨ c = '\r') := by
  cases h with
  | feed => exact ⟨_, _, rfl, .inl rfl⟩
  | both => exact ⟨_, _, rfl, .inr rfl⟩

theorem Break.not_isText {c : Char} {cs rest : List Char} (h : Break (c :: cs) rest) :
    isText c = false := by
  cases h <;> rfl

/-- A comment goes up to the end of its line. -/
theorem dropWhile_isText {body rest : List Char} (hbody : ∀ c ∈ body, IsText c)
    (hrest : (∃ ds, Break rest ds) ∨ rest = []) : (body ++ rest).dropWhile isText = rest := by
  rw [List.dropWhile_append_of_pos fun c hc ↦ isText_eq_true_iff.mpr (hbody c hc)]
  cases rest with
  | nil => rfl
  | cons c rest =>
    obtain ⟨ds, h⟩ | h := hrest
    · rw [List.dropWhile_cons, h.not_isText]
      rfl
    · cases h

theorem EndOfLine.lineEnd_eq {cs rest : List Char} (h : EndOfLine cs rest) :
    lineEnd cs = some rest := by
  obtain ⟨ds, es, hblanks, hcomment, hstop⟩ := h
  have hes : (∃ fs, Break es fs) ∨ es = [] := hstop.imp (fun h ↦ ⟨_, h⟩) And.left
  have hskip : skipComment (skipBlank cs) = es := by
    rw [hblanks.skipBlank_eq]
    obtain rfl | ⟨body, rfl, hbody⟩ := hcomment
    · obtain ⟨fs, hbreak⟩ | rfl := hes
      · cases hbreak <;> rfl
      · rfl
    · rw [Toml.skipBlank_cons (by decide)]
      exact dropWhile_isText hbody hes
  rw [lineEnd, hskip]
  obtain hbreak | ⟨rfl, rfl⟩ := hstop
  · obtain ⟨c, fs, rfl, -⟩ := hbreak.head
    exact hbreak.newline?_eq
  · rfl

theorem skipSpace_of_break {cs rest : List Char} (h : Break cs rest) :
    skipSpace cs = skipSpace rest := by
  cases h with
  | feed => rw [skipSpace, if_neg (by decide)]; rfl
  | both => rw [skipSpace, if_neg (by decide)]; rfl

theorem Space.skipSpace_eq {cs rest : List Char} (h : Space cs rest) :
    skipSpace cs = skipSpace rest := by
  induction h with
  | refl => rfl
  | blank hc _ ih => rw [skipSpace, if_pos (isBlank_eq_true_iff.mpr hc), ih]
  | newline hbreak _ ih => rw [skipSpace_of_break hbreak, ih]

theorem space_skipSpace (cs : List Char) : Space cs (skipSpace cs) := by
  fun_induction skipSpace cs with
  | case1 => exact .refl []
  | case2 c cs hc ih => exact .blank (isBlank_eq_true_iff.mp hc) ih
  | case3 c cs _ rest hbreak ih => exact .newline (newline?_eq_some_iff.mp hbreak) ih
  | case4 c cs => exact .refl _

theorem skipFiller_of_break {cs rest : List Char} (h : Break cs rest) :
    skipFiller cs = skipFiller rest := by
  cases h with
  | feed => rw [skipFiller, if_neg (by decide), if_neg (by decide)]; rfl
  | both => rw [skipFiller, if_neg (by decide), if_neg (by decide)]; rfl

theorem Filler.skipFiller_eq {cs rest : List Char} (h : Filler cs rest) :
    skipFiller cs = skipFiller rest := by
  induction h with
  | refl => rfl
  | blank hc _ ih => rw [skipFiller, if_pos (isBlank_eq_true_iff.mpr hc), ih]
  | newline hbreak _ ih => rw [skipFiller_of_break hbreak, ih]
  | comment hcomment hbreak _ ih =>
    obtain ⟨body, rfl, hbody⟩ := hcomment
    rw [skipFiller, if_neg (by decide), if_pos rfl, dropWhile_isText hbody (.inl ⟨_, hbreak⟩),
      skipFiller_of_break hbreak, ih]

theorem skipFiller_cons {c : Char} (hblank : isBlank c = false) (hcomment : c ≠ '#')
    (hfeed : c ≠ '\n') (hreturn : c ≠ '\r') (cs : List Char) :
    skipFiller (c :: cs) = c :: cs := by
  have hnone := newline?_cons hfeed hreturn cs
  rw [skipFiller, if_neg (by simp [hblank]), if_neg hcomment]
  grind

theorem word?_append (word cs : List Char) : word? word (word ++ cs) = some cs := by
  induction word with
  | nil => rfl
  | cons w word ih => rw [List.cons_append, word?, if_pos rfl, ih]

/-! ## Digits and escapes -/

theorem IsDigit.digit?_eq {base : Nat} {c : Char} {d : Nat} (h : IsDigit base c d)
    (hbase : base ≤ 16) : digit? base c = some d := by
  obtain ⟨hlt, hc⟩ := h
  have hall : ∀ d : Fin 16, Text.hexDigit? (Nat.digitChar d) = some d.val ∧
      Text.hexDigit? (Nat.digitChar d).toUpper = some d.val := by decide
  have hd : Text.hexDigit? c = some d := by
    obtain rfl | rfl := hc
    · exact (hall ⟨d, by omega⟩).1
    · exact (hall ⟨d, by omega⟩).2
  rw [digit?, hd]
  exact if_pos hlt

theorem IsDigit.hexDigit?_eq {c : Char} {d : Nat} (h : IsDigit 16 c d) :
    Text.hexDigit? c = some d := by
  have hdigit := h.digit?_eq (Nat.le_refl _)
  unfold digit? at hdigit
  grind

theorem hexDigits?_append {ds : List Char} {ns : List Nat} (h : List.Forall₂ (IsDigit 16) ds ns)
    (v : Nat) (rest : List Char) :
    hexDigits? ds.length v (ds ++ rest) = some (ns.foldl (fun n d ↦ 16 * n + d) v, rest) := by
  induction h generalizing v with
  | nil => rfl
  | cons hd _ ih =>
    rw [List.length_cons, List.cons_append, hexDigits?, hd.hexDigit?_eq]
    exact ih _

theorem codePoint?_append {ds : List Char} {ns : List Nat} (h : List.Forall₂ (IsDigit 16) ds ns)
    {c : Char} (hc : c.toNat = ofDigits 16 ns) (rest : List Char) :
    codePoint? ds.length (ds ++ rest) = some (c, rest) := by
  have hvalid : c.toNat.isValidChar := c.valid
  have hchar : charOfNat? (ofDigits 16 ns) = some c := by
    rw [← hc, charOfNat?, if_pos hvalid, Char.ofNat_toNat]
  rw [codePoint?, hexDigits?_append h]
  show (charOfNat? (ofDigits 16 ns)).map _ = _
  rw [hchar]
  rfl

theorem Escape.escape?_eq {cs rest : List Char} {c : Char} (h : Escape cs c rest) :
    escape? cs = some (c, rest) := by
  cases h with
  | letter h =>
    simp only [escapes, List.mem_cons, Prod.mk.injEq, List.not_mem_nil, or_false] at h
    obtain ⟨rfl, rfl⟩ | ⟨rfl, rfl⟩ | ⟨rfl, rfl⟩ | ⟨rfl, rfl⟩ | ⟨rfl, rfl⟩ | ⟨rfl, rfl⟩ |
      ⟨rfl, rfl⟩ := h <;> rfl
  | number hmark hds hc =>
    have hcode := codePoint?_append hds hc rest
    simp only [List.mem_cons, Prod.mk.injEq, List.not_mem_nil, or_false] at hmark
    obtain ⟨rfl, hlength⟩ | ⟨rfl, hlength⟩ := hmark
    · rw [hlength] at hcode
      exact hcode
    · rw [hlength] at hcode
      exact hcode

/-- An escape is no line break. -/
theorem Escape.newline?_skipBlank {cs rest : List Char} {c : Char} (h : Escape cs c rest) :
    newline? (skipBlank cs) = none := by
  have hhead : ∃ e ds, cs = e :: ds ∧ e ∈ escapes.map Prod.fst ++ ['u', 'U'] := by
    cases h with
    | letter h => exact ⟨_, _, rfl, List.mem_append_left _ (List.mem_map_of_mem (f := Prod.fst) h)⟩
    | number hmark =>
      exact ⟨_, _, rfl, List.mem_append_right _ (List.mem_map_of_mem (f := Prod.fst) hmark)⟩
  obtain ⟨e, ds, rfl, he⟩ := hhead
  have hall : ∀ e ∈ escapes.map Prod.fst ++ ['u', 'U'],
      isBlank e = false ∧ e ≠ '\n' ∧ e ≠ '\r' := List.all_iff_forall_prop.mp (by decide)
  obtain ⟨hblank, hfeed, hreturn⟩ := hall e he
  rw [Toml.skipBlank_cons hblank, newline?_cons hfeed hreturn]

/-! ## Strings in one line -/

theorem basicText_of_escape {cs rest : List Char} {c : Char} (h : escape? cs = some (c, rest)) :
    basicText ('\\' :: cs) = (basicText rest).map fun (s, left) ↦ (c :: s, left) := by
  rw [basicText]
  grind

theorem LineText.basicText_eq {cs s rest : List Char} (h : LineText '"' cs s rest) :
    basicText cs = some (s, rest) := by
  induction h with
  | close => rw [basicText, if_pos rfl]
  | plain hquote hslash htext _ ih =>
    rw [basicText, if_neg hquote, if_neg (hslash rfl), if_pos (isText_eq_true_iff.mpr htext), ih]
    rfl
  | escape _ hc _ ih =>
    rw [basicText_of_escape hc.escape?_eq, ih]
    rfl

theorem LineText.literalText_eq {cs s rest : List Char} (h : LineText '\'' cs s rest) :
    literalText cs = some (s, rest) := by
  induction h with
  | close => rw [literalText, if_pos rfl]
  | plain hquote _ htext _ ih =>
    rw [literalText, if_neg hquote, if_pos (isText_eq_true_iff.mpr htext), ih]
    rfl
  | escape hquote => exact absurd hquote (by decide)

theorem LineText.lineText?_eq {quote : Char} {cs s rest : List Char} (hquote : IsQuote quote)
    (h : LineText quote cs s rest) : lineText? (quote :: cs) = some (s, rest) := by
  obtain rfl | rfl := hquote
  · exact h.basicText_eq
  · exact h.literalText_eq

/-! ## Strings over several lines -/

/-- No quote follows. -/
def NoQuote (rest : List Char) : Prop := ∀ c, rest.head? = some c → ¬IsQuote c

theorem NoQuote.head_ne {quote c : Char} {cs : List Char} (h : NoQuote (c :: cs))
    (hquote : IsQuote quote) : c ≠ quote := by
  rintro rfl
  exact h c rfl hquote

theorem threeQuotes?_of_ne {quote c : Char} (h : c ≠ quote) (cs : List Char) :
    threeQuotes? quote (c :: cs) = none := by
  rw [threeQuotes?.eq_def]
  grind

theorem threeQuotes?_eq_none {quote : Char} {cs : List Char} (h : ¬[quote, quote] <+: cs) :
    threeQuotes? quote (quote :: cs) = none := by
  rw [threeQuotes?.eq_def]
  split
  · next b c rest heq =>
    cases heq
    refine if_neg fun hquotes ↦ h ?_
    obtain ⟨-, rfl, rfl⟩ := hquotes
    exact ⟨rest, rfl⟩
  · rfl

/-- From a row of quotes the last three close the string. -/
theorem closing_replicate {quote : Char} (hquote : IsQuote quote) {count : Nat} (hcount : count ≤ 2)
    {rest : List Char} (hrest : NoQuote rest) :
    closing quote (List.replicate count quote ++ rest) =
      (List.replicate count quote, rest) := by
  obtain rfl | rfl | rfl : count = 0 ∨ count = 1 ∨ count = 2 := by omega
  · cases rest with
    | nil => rfl
    | cons c rest =>
      have hc := hrest.head_ne hquote
      cases rest <;> simp [closing, hc]
  · cases rest with
    | nil => simp [closing]
    | cons c rest =>
      have hc := hrest.head_ne hquote
      simp [closing, hc]
  · simp [closing, List.replicate]

theorem threeQuotes?_replicate (quote : Char) (count : Nat) (rest : List Char) :
    threeQuotes? quote (List.replicate (count + 3) quote ++ rest) =
      some (List.replicate count quote ++ rest) := by
  simp [threeQuotes?, List.replicate]

theorem basicLines_of_threeQuotes {cs rest : List Char} (h : threeQuotes? '"' cs = some rest) :
    basicLines cs = some (closing '"' rest) := by
  rw [basicLines.eq_def, h]

theorem literalLines_of_threeQuotes {cs rest : List Char} (h : threeQuotes? '\'' cs = some rest) :
    literalLines cs = some (closing '\'' rest) := by
  rw [literalLines.eq_def, h]

theorem basicLines_of_text {c : Char} {cs : List Char} (h : threeQuotes? '"' (c :: cs) = none)
    (hslash : c ≠ '\\') (htext : isText c = true) :
    basicLines (c :: cs) = (basicLines cs).map fun (s, left) ↦ (c :: s, left) := by
  rw [basicLines.eq_def, h]
  dsimp only
  rw [if_neg hslash, if_pos htext]

theorem literalLines_of_text {c : Char} {cs : List Char} (h : threeQuotes? '\'' (c :: cs) = none)
    (htext : isText c = true) :
    literalLines (c :: cs) = (literalLines cs).map fun (s, left) ↦ (c :: s, left) := by
  rw [literalLines.eq_def, h]
  dsimp only
  rw [if_pos htext]

theorem basicLines_of_break {cs rest : List Char} (h : Break cs rest) :
    basicLines cs = (basicLines rest).map fun (s, left) ↦ ('\n' :: s, left) := by
  cases h with
  | feed => rw [basicLines, threeQuotes?_of_ne (by decide)]; rfl
  | both => rw [basicLines, threeQuotes?_of_ne (by decide)]; rfl

theorem literalLines_of_break {cs rest : List Char} (h : Break cs rest) :
    literalLines cs = (literalLines rest).map fun (s, left) ↦ ('\n' :: s, left) := by
  cases h with
  | feed => rw [literalLines, threeQuotes?_of_ne (by decide)]; rfl
  | both => rw [literalLines, threeQuotes?_of_ne (by decide)]; rfl

theorem basicLines_of_escape {cs rest : List Char} {c : Char} (h : Escape cs c rest) :
    basicLines ('\\' :: cs) = (basicLines rest).map fun (s, left) ↦ (c :: s, left) := by
  have hnone := h.newline?_skipBlank
  have hescape := h.escape?_eq
  rw [basicLines, threeQuotes?_of_ne (by decide)]
  grind

theorem basicLines_of_fold {cs ds rest : List Char} (hblanks : Blanks cs ds)
    (hbreak : Break ds rest) : basicLines ('\\' :: cs) = basicLines (skipSpace rest) := by
  have hnewline : newline? (skipBlank cs) = some rest := by
    rw [hblanks.skipBlank_eq]
    cases hbreak <;> rfl
  rw [basicLines, threeQuotes?_of_ne (by decide)]
  grind

theorem LinesText.basicLines_eq {cs s rest : List Char} (h : LinesText '"' cs s rest)
    (hrest : NoQuote rest) : basicLines cs = some (s, rest) := by
  induction h with
  | close hcount =>
    rw [← closing_replicate (.inl rfl) hcount hrest]
    exact basicLines_of_threeQuotes (threeQuotes?_replicate _ _ _)
  | quote hquotes _ ih =>
    rw [basicLines_of_text (threeQuotes?_eq_none hquotes) (by decide) (by decide), ih hrest]
    rfl
  | plain hquote hslash htext _ ih =>
    rw [basicLines_of_text (threeQuotes?_of_ne hquote _) (hslash rfl)
      (isText_eq_true_iff.mpr htext), ih hrest]
    rfl
  | newline hbreak _ ih =>
    rw [basicLines_of_break hbreak, ih hrest]
    rfl
  | escape _ hc _ ih =>
    rw [basicLines_of_escape hc, ih hrest]
    rfl
  | fold _ hblanks hbreak hspace hall _ ih =>
    rw [basicLines_of_fold hblanks hbreak, hspace.skipSpace_eq, hall _ (space_skipSpace _),
      ih hrest]

theorem LinesText.literalLines_eq {cs s rest : List Char} (h : LinesText '\'' cs s rest)
    (hrest : NoQuote rest) : literalLines cs = some (s, rest) := by
  induction h with
  | close hcount =>
    rw [← closing_replicate (.inr rfl) hcount hrest]
    exact literalLines_of_threeQuotes (threeQuotes?_replicate _ _ _)
  | quote hquotes _ ih =>
    rw [literalLines_of_text (threeQuotes?_eq_none hquotes) (by decide), ih hrest]
    rfl
  | plain hquote _ htext _ ih =>
    rw [literalLines_of_text (threeQuotes?_of_ne hquote _) (isText_eq_true_iff.mpr htext),
      ih hrest]
    rfl
  | newline hbreak _ ih =>
    rw [literalLines_of_break hbreak, ih hrest]
    rfl
  | escape hquote => exact absurd hquote (by decide)
  | fold hquote => exact absurd hquote (by decide)

/-! ## All strings -/

/-- A string in one line starts with a single quote, or is empty. -/
theorem LineText.threeQuotes?_eq {quote : Char} {cs s rest : List Char}
    (h : LineText quote cs s rest) (hquote : IsQuote quote) (hrest : NoQuote rest) :
    threeQuotes? quote (quote :: cs) = none := by
  refine threeQuotes?_eq_none fun ⟨left, heq⟩ ↦ ?_
  cases heq
  cases h with
  | close => exact hrest _ rfl hquote
  | plain hne => exact hne rfl
  | escape hquote => exact absurd hquote (by decide)

theorem text?_of_line {quote : Char} {cs : List Char} (hquote : IsQuote quote)
    (h : threeQuotes? quote (quote :: cs) = none) :
    text? (quote :: cs) = lineText? (quote :: cs) := by
  have hother : ∀ {a b : Char}, b ≠ a → threeQuotes? a (b :: cs) = none :=
    fun hne ↦ threeQuotes?_of_ne hne cs
  obtain rfl | rfl := hquote
  · rw [text?, h, hother (by decide)]
  · rw [text?, h, hother (by decide)]

theorem text?_of_lines {quote : Char} {cs ds s rest : List Char} (hquote : IsQuote quote)
    (hfirst : skipFirstBreak cs = ds) (h : LinesText quote ds s rest) (hrest : NoQuote rest) :
    text? (quote :: quote :: quote :: cs) = some (s, rest) := by
  have hquotes : threeQuotes? quote (quote :: quote :: quote :: cs) = some cs :=
    threeQuotes?_replicate quote 0 cs
  obtain rfl | rfl := hquote
  · rw [text?, hquotes]
    dsimp only
    rw [hfirst, h.basicLines_eq hrest]
  · rw [text?, hquotes, threeQuotes?_of_ne (by decide)]
    dsimp only
    rw [hfirst, h.literalLines_eq hrest]

theorem TextForm.text?_eq {cs s rest : List Char} (h : TextForm cs s rest) (hrest : NoQuote rest) :
    text? cs = some (s, rest) := by
  cases h with
  | line hquote h =>
    rw [text?_of_line hquote (h.threeQuotes?_eq hquote hrest), h.lineText?_eq hquote]
  | @lines _ cs _ _ hquote hfirst h =>
    have hnone : newline? cs = none := by
      cases hbreak : newline? cs with
      | none => rfl
      | some ds => exact absurd (newline?_eq_some_iff.mp hbreak) (hfirst ds)
    exact text?_of_lines hquote (by rw [skipFirstBreak, hnone]; rfl) h hrest
  | linesBelow hquote hfirst h =>
    exact text?_of_lines hquote (by rw [skipFirstBreak, hfirst.newline?_eq]; rfl) h hrest

/-! ## Keys -/

theorem isBare_eq_true_iff {c : Char} : isBare c = true ↔ IsBare c := by
  simp [isBare, IsBare, or_assoc]

/-- A bare key does not go on. -/
def NoBare (rest : List Char) : Prop := ∀ c, rest.head? = some c → ¬IsBare c

theorem bareKey?_append {name rest : List Char} (hne : name ≠ []) (hname : ∀ c ∈ name, IsBare c)
    (hrest : NoBare rest) : bareKey? (name ++ rest) = some (name, rest) := by
  have hbare : ∀ c ∈ name, isBare c = true := fun c hc ↦ isBare_eq_true_iff.mpr (hname c hc)
  have hstop : rest.takeWhile isBare = [] ∧ rest.dropWhile isBare = rest := by
    cases rest with
    | nil => exact ⟨rfl, rfl⟩
    | cons c rest =>
      have hc : isBare c = false := by
        rw [Bool.eq_false_iff, Ne, isBare_eq_true_iff]
        exact hrest c rfl
      rw [List.takeWhile_cons, List.dropWhile_cons, hc]
      exact ⟨rfl, rfl⟩
  have htake : (name ++ rest).takeWhile isBare = name := by
    rw [List.takeWhile_append_of_pos hbare, hstop.1, List.append_nil]
  have hdrop : (name ++ rest).dropWhile isBare = rest := by
    rw [List.dropWhile_append_of_pos hbare, hstop.2]
  obtain ⟨c, cs, rfl⟩ := List.exists_cons_of_ne_nil hne
  rw [List.cons_append] at htake hdrop ⊢
  rw [bareKey?, htake, hdrop, if_pos (hbare c List.mem_cons_self)]

theorem lineText?_of_bare {c : Char} (hc : IsBare c) (cs : List Char) :
    lineText? (c :: cs) = none := by
  rw [lineText?.eq_def]
  split
  · next heq =>
    cases heq
    exact absurd hc (by decide)
  · next heq =>
    cases heq
    exact absurd hc (by decide)
  · rfl

theorem SimpleKey.simpleKey?_eq {cs rest : List Char} {key : String} (h : SimpleKey cs key rest)
    (hrest : NoBare rest) : ∃ span, simpleKey? cs = some (⟨key, span⟩, rest) := by
  refine ⟨⟨cs, rest⟩, ?_⟩
  cases h with
  | @bare name _ hne hname =>
    have hline : lineText? (name ++ rest) = none := by
      obtain ⟨c, cs, rfl⟩ := List.exists_cons_of_ne_nil hne
      exact lineText?_of_bare (hname c List.mem_cons_self) _
    rw [simpleKey?, bareKey?_append hne hname hrest, hline]
    rfl
  | quoted hquote h =>
    rw [simpleKey?, h.lineText?_eq hquote]
    rfl

/-- What a key starts with. -/
def StartsKey (c : Char) : Prop := IsBare c ∨ IsQuote c

theorem SimpleKey.head {cs rest : List Char} {key : String} (h : SimpleKey cs key rest) :
    ∃ c ds, cs = c :: ds ∧ StartsKey c := by
  cases h with
  | bare hne hname =>
    obtain ⟨c, name, rfl⟩ := List.exists_cons_of_ne_nil hne
    exact ⟨c, _, List.cons_append, .inl (hname c List.mem_cons_self)⟩
  | quoted hquote => exact ⟨_, _, rfl, .inr hquote⟩

instance (c : Char) : Decidable (StartsKey c) := inferInstanceAs (Decidable (_ ∨ _))

theorem StartsKey.isBlank_eq {c : Char} (h : StartsKey c) : isBlank c = false :=
  isBlank_eq_false h (by decide) (by decide)

/-- A bare key does not go on with blanks, nor with what comes after them. -/
theorem Blanks.noBare {c : Char} {cs rest : List Char} (h : Blanks cs (c :: rest))
    (hc : ¬IsBare c) : NoBare cs := by
  obtain ⟨blanks, rfl, hblanks⟩ := h
  intro d hd
  cases blanks with
  | nil =>
    cases hd
    exact hc
  | cons b blanks =>
    obtain rfl := Option.some.inj hd
    obtain rfl | rfl := hblanks _ List.mem_cons_self
    · decide
    · decide

theorem dottedKey_last {c : Char} {cs ds rest : List Char} {key : Key} (hc : c ≠ '.')
    (hkey : simpleKey? (skipBlank cs) = some (key, ds)) (hback : skipBlank ds = c :: rest) :
    dottedKey cs = some ([key], c :: rest) := by
  rw [dottedKey]
  grind

theorem dottedKey_dot {cs ds rest : List Char} {key : Key}
    (hkey : simpleKey? (skipBlank cs) = some (key, ds)) (hback : skipBlank ds = '.' :: rest) :
    dottedKey cs = (dottedKey rest).map fun (keys, left) ↦ (key :: keys, left) := by
  rw [dottedKey]
  grind

/-- What ends the keys of an entry or a header. -/
def EndsKey (c : Char) : Prop := c = '=' ∨ c = ']'

instance (c : Char) : Decidable (EndsKey c) := inferInstanceAs (Decidable (_ ∨ _))

theorem EndsKey.not_isBare {c : Char} (h : EndsKey c) : ¬IsBare c := by
  obtain rfl | rfl := h <;> decide

theorem EndsKey.isBlank_eq {c : Char} (h : EndsKey c) : isBlank c = false :=
  isBlank_eq_false h (by decide) (by decide)

theorem SimpleKey.skipBlank_eq {cs ds rest : List Char} {key : String} (hfront : Blanks cs ds)
    (h : SimpleKey ds key rest) : skipBlank cs = ds := by
  obtain ⟨c, ds, rfl, hc⟩ := h.head
  exact hfront.skipBlank_cons hc.isBlank_eq

theorem KeyForm.dottedKey_eq {cs ds rest : List Char} {c : Char} {keys : List String}
    (h : KeyForm cs keys ds) (hds : ds = c :: rest) (hc : EndsKey c) :
    ∃ ks : List Key, ks.map (·.name) = keys ∧ dottedKey cs = some (ks, ds) := by
  induction h with
  | last hfront h hback =>
    subst hds
    obtain ⟨span, hkey⟩ := h.simpleKey?_eq (hback.noBare hc.not_isBare)
    rw [← h.skipBlank_eq hfront] at hkey
    exact ⟨[_], rfl,
      dottedKey_last (ne_of_not hc (by decide)) hkey (hback.skipBlank_cons hc.isBlank_eq)⟩
  | dot hfront h hback _ ih =>
    obtain ⟨ks, rfl, hks⟩ := ih hds
    obtain ⟨span, hkey⟩ := h.simpleKey?_eq (hback.noBare (by decide))
    rw [← h.skipBlank_eq hfront] at hkey
    refine ⟨⟨_, span⟩ :: ks, rfl, ?_⟩
    rw [dottedKey_dot hkey (hback.skipBlank_cons (by decide)), hks]
    rfl

theorem KeyForm.ne_nil {cs rest : List Char} {keys : List String} (h : KeyForm cs keys rest) :
    keys ≠ [] := by
  cases h <;> exact List.cons_ne_nil _ _

/-- **Keys are read**, unless there are too many. -/
theorem KeyForm.key?_eq {cs ds rest : List Char} {c : Char} {keys : List String}
    (h : KeyForm cs keys ds) (hds : ds = c :: rest) (hc : EndsKey c)
    (hlength : keys.length < depthLimit) :
    ∃ (path : List Key) (key : Key), path.map (·.name) ++ [key.name] = keys ∧
      key? cs = some ((path, key), ds) := by
  obtain ⟨ks, hks, hdotted⟩ := h.dottedKey_eq hds hc
  have hne : ks ≠ [] := by
    rintro rfl
    exact h.ne_nil hks.symm
  refine ⟨ks.dropLast, ks.getLast hne, ?_, ?_⟩
  · rw [← hks, ← List.map_singleton, ← List.map_append, List.dropLast_append_getLast]
  · rw [← hks, List.length_map] at hlength
    rw [key?, hdotted]
    dsimp only [Option.bind_eq_bind, Option.bind_some]
    rw [guard, if_pos hlength, List.getLast?_eq_some_getLast hne]
    rfl

end HexSigner.Toml
