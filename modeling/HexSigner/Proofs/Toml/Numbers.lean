import HexSigner.Proofs.Number.Binary64
import HexSigner.Proofs.Toml.Words

/-!
# Numbers are read as the grammar says

A number has the value that its digits say, whichever way it is written: an integer the exact one,
and any other number the double nearest to it.

Where a number stands a date might stand, too, which also starts with digits.  But no number has a
dash or a colon right after its first digits, so a number is never taken for a date
(`WholeForm.moment?_eq_none`).
-/

set_option autoImplicit false

namespace HexSigner.Toml

open Document

/-- What follows after a value. -/
def Stops (rest : List Char) : Prop :=
  ∀ c, rest.head? = some c → c ∈ [' ', '\t', '\n', '\r', '#', ',', ']', '\x7d']

/-- What holds of all that may follow after a value holds of what follows. -/
theorem Stops.holds {p : Char → Prop} [DecidablePred p] {c : Char} {rest : List Char}
    (h : Stops rest) (hc : rest.head? = some c)
    (hall : [' ', '\t', '\n', '\r', '#', ',', ']', '\x7d'].all fun c ↦ p c) : p c :=
  List.all_iff_forall_prop.mp hall c (h c hc)

/-- The digits of a number do not go on. -/
def NoDigit (base : Nat) (rest : List Char) : Prop :=
  ∀ c, rest.head? = some c → digit? base c = none ∧ c ≠ '_'

theorem Stops.noDigit {rest : List Char} (h : Stops rest) (base : Nat) : NoDigit base rest := by
  intro c hc
  have hdigit := h.holds (p := (Text.hexDigit? · = none)) hc (by decide)
  have hne := h.holds (p := (· ≠ '_')) hc (by decide)
  rw [digit?, hdigit]
  exact ⟨rfl, hne⟩

/-! ## Digits -/

theorem moreDigits_cons {base : Nat} {c : Char} {d : Nat} (hd : digit? base c = some d)
    (v n : Nat) (cs : List Char) :
    moreDigits base v n (c :: cs) = moreDigits base (base * v + d) (n + 1) cs := by
  cases cs with
  | nil => simp [moreDigits, hd]
  | cons e cs =>
    rw [moreDigits.eq_def]
    dsimp only
    rw [hd]

theorem moreDigits_underscore {base : Nat} {c : Char} {d : Nat} (hd : digit? base c = some d)
    (v n : Nat) (cs : List Char) :
    moreDigits base v n ('_' :: c :: cs) = moreDigits base (base * v + d) (n + 1) cs := by
  have hnone : digit? base '_' = none := rfl
  rw [moreDigits.eq_def]
  dsimp only
  rw [hnone, hd]
  rfl

theorem moreDigits_stop {base : Nat} {rest : List Char} (hrest : NoDigit base rest) (v n : Nat) :
    moreDigits base v n rest = (v, n, rest) := by
  cases rest with
  | nil => rfl
  | cons c rest =>
    obtain ⟨hdigit, hne⟩ := hrest c rfl
    cases rest with
    | nil => simp [moreDigits, hdigit]
    | cons e rest =>
      rw [moreDigits.eq_def]
      dsimp only
      rw [hdigit]
      dsimp only
      split
      · exact absurd rfl hne
      · rfl

theorem Digits.moreDigits_eq {base : Nat} {cs rest : List Char} {ds : List Nat}
    (h : Digits base cs ds rest) (hbase : base ≤ 16) (hrest : NoDigit base rest) (v n : Nat) :
    moreDigits base v n cs = (ds.foldl (fun n d ↦ base * n + d) v, n + ds.length, rest) ∧
      moreDigits base v n ('_' :: cs) =
        (ds.foldl (fun n d ↦ base * n + d) v, n + ds.length, rest) := by
  induction h generalizing v n with
  | last hd =>
    rw [moreDigits_cons (hd.digit?_eq hbase), moreDigits_underscore (hd.digit?_eq hbase),
      moreDigits_stop hrest]
    exact ⟨rfl, rfl⟩
  | cons hd _ ih =>
    rw [moreDigits_cons (hd.digit?_eq hbase), moreDigits_underscore (hd.digit?_eq hbase),
      (ih hrest _ _).1, List.length_cons, Nat.add_right_comm, Nat.add_assoc]
    exact ⟨rfl, rfl⟩
  | underscore hd _ ih =>
    rw [moreDigits_cons (hd.digit?_eq hbase), moreDigits_underscore (hd.digit?_eq hbase),
      (ih hrest _ _).2, List.length_cons, Nat.add_right_comm, Nat.add_assoc]
    exact ⟨rfl, rfl⟩

theorem Digits.digits?_eq {base : Nat} {cs rest : List Char} {ds : List Nat}
    (h : Digits base cs ds rest) (hbase : base ≤ 16) (hrest : NoDigit base rest) :
    digits? base cs = some (ofDigits base ds, ds.length, rest) := by
  have hfirst : ∀ {d : Nat}, base * 0 + d = d := by omega
  cases h with
  | last hd =>
    rw [digits?, hd.digit?_eq hbase, Option.map_some, moreDigits_stop hrest, ofDigits,
      List.foldl_cons, hfirst]
    rfl
  | cons hd h =>
    rw [digits?, hd.digit?_eq hbase, Option.map_some, (h.moreDigits_eq hbase hrest _ _).1,
      ofDigits, List.foldl_cons, hfirst, List.length_cons, Nat.add_comm]
  | underscore hd h =>
    rw [digits?, hd.digit?_eq hbase, Option.map_some, (h.moreDigits_eq hbase hrest _ _).2,
      ofDigits, List.foldl_cons, hfirst, List.length_cons, Nat.add_comm]

/-! ## What numbers start with -/

theorem IsDigit.isDigit {c : Char} {d : Nat} (h : IsDigit 10 c d) : c.isDigit = true := by
  obtain ⟨hlt, hc⟩ := h
  have hall : ∀ d : Fin 10, (Nat.digitChar d).isDigit = true ∧
      (Nat.digitChar d).toUpper.isDigit = true := by decide
  obtain rfl | rfl := hc
  · exact (hall ⟨d, hlt⟩).1
  · exact (hall ⟨d, hlt⟩).2

theorem Digits.head {cs rest : List Char} {ds : List Nat} (h : Digits 10 cs ds rest) :
    ∃ c left, cs = c :: left ∧ c.isDigit = true := by
  cases h with
  | last hd => exact ⟨_, _, rfl, hd.isDigit⟩
  | cons hd => exact ⟨_, _, rfl, hd.isDigit⟩
  | underscore hd => exact ⟨_, _, rfl, hd.isDigit⟩

theorem WholeForm.head {cs rest : List Char} {ds : List Nat} (h : WholeForm cs ds rest) :
    ∃ c left, cs = c :: left ∧ c.isDigit = true := by
  cases h with
  | zero => exact ⟨_, _, rfl, rfl⟩
  | digits h => exact h.head

theorem ne_of_isDigit {c d : Char} (hc : c.isDigit = true) (hd : d.isDigit = false) : c ≠ d :=
  ne_of_not (p := (·.isDigit = true)) hc (Bool.eq_false_iff.mp hd)

theorem SignForm.sign_eq {cs ds : List Char} {negative : Bool}
    (h : Json.SignForm cs negative ds) {c : Char} {left : List Char} (hds : ds = c :: left)
    (hc : c.isDigit = true) : sign cs = (negative, ds) := by
  cases h with
  | absent =>
    subst hds
    have hplus := ne_of_isDigit hc (d := '+') rfl
    have hminus := ne_of_isDigit hc (d := '-') rfl
    rw [sign.eq_def]
    grind
  | plus => rfl
  | minus => rfl

/-! ## The parts of numbers -/

theorem WholeForm.wholeDigits?_eq {cs rest : List Char} {ds : List Nat} (h : WholeForm cs ds rest)
    (hrest : NoDigit 10 rest) : wholeDigits? cs = some (ofDigits 10 ds, rest) := by
  cases h with
  | zero => rfl
  | digits h hzero =>
    have hdigits := h.digits?_eq (by decide) hrest
    rw [wholeDigits?.eq_def]
    split
    · exact absurd rfl hzero
    · rw [hdigits]
      rfl

theorem noDigit_cons {c : Char} (hdigit : digit? 10 c = none) (hne : c ≠ '_') (cs : List Char) :
    NoDigit 10 (c :: cs) := by
  intro d hd
  cases hd
  exact ⟨hdigit, hne⟩

theorem isExponentMark_eq {mark : Char} (h : mark = 'e' ∨ mark = 'E') :
    isExponentMark mark = true := by
  obtain rfl | rfl := h <;> rfl

theorem ExponentForm.noDigit {cs rest : List Char} {exponent : Option (Bool × List Nat)}
    (h : ExponentForm cs exponent rest) (hrest : Stops rest) : NoDigit 10 cs := by
  cases h with
  | absent => exact hrest.noDigit 10
  | present hmark => obtain rfl | rfl := hmark <;> exact noDigit_cons rfl (by decide) _

/-- The number that an exponent says. -/
def exponentOf : Option (Bool × List Nat) → Int
  | none => 0
  | some (negative, ds) => if negative then -(ofDigits 10 ds : Int) else ofDigits 10 ds

theorem Stops.not_isExponentMark {c : Char} {rest : List Char} (h : Stops (c :: rest)) :
    isExponentMark c = false :=
  h.holds (p := (isExponentMark · = false)) rfl (by decide)

theorem ExponentForm.afterFraction?_eq {cs rest : List Char} {exponent : Option (Bool × List Nat)}
    (h : ExponentForm cs exponent rest) (hrest : Stops rest) (negative : Bool)
    (digits places : Nat) :
    afterFraction? negative digits places cs =
      (real? negative digits (exponentOf exponent - places)).map (·, rest) := by
  cases h with
  | absent =>
    have hexponent : exponentOf none - (places : Int) = -places := Int.zero_sub _
    rw [hexponent]
    cases cs with
    | nil => rfl
    | cons c rest =>
      rw [afterFraction?, hrest.not_isExponentMark]
      rfl
  | @present _ cs _ _ minus ds hmark hsign hdigits =>
    obtain ⟨c, left, hds, hc⟩ := hdigits.head
    have hexponent : exponent? cs = some (exponentOf (some (minus, ds)), rest) := by
      rw [exponent?, SignForm.sign_eq hsign hds hc]
      dsimp only
      rw [hdigits.digits?_eq (by decide) (hrest.noDigit 10)]
      rfl
    rw [afterFraction?, if_pos (isExponentMark_eq hmark), hexponent]
    simp only [Option.bind_eq_bind, Option.bind_some]
    cases real? negative digits _ <;> rfl

/-! ## Numbers in base ten -/

theorem ofDigits_append (base : Nat) (ds es : List Nat) :
    ofDigits base (ds ++ es) = ofDigits base ds * base ^ es.length + ofDigits base es := by
  have hfold : ∀ v : Nat, es.foldl (fun n d ↦ base * n + d) v =
      v * base ^ es.length + es.foldl (fun n d ↦ base * n + d) 0 := by
    induction es with
    | nil => simp
    | cons e es ih =>
      intro v
      rw [List.foldl_cons, List.foldl_cons, ih, ih (base * 0 + e), List.length_cons, Nat.pow_succ]
      ring
  rw [ofDigits, List.foldl_append, hfold]
  rfl

section Whole

variable {negative : Bool} {cs ds rest : List Char} {whole : List Nat}
  (hsign : Json.SignForm cs negative ds)
include hsign

theorem decimal?_of_point {fraction : List Nat} {left : List Char}
    (hwhole : WholeForm ds whole ('.' :: left)) (hfraction : Digits 10 left fraction rest)
    (hrest : NoDigit 10 rest) :
    decimal? cs =
      afterFraction? negative (ofDigits 10 (whole ++ fraction)) fraction.length rest := by
  obtain ⟨c, _, hds, hc⟩ := hwhole.head
  have hpoint := hwhole.wholeDigits?_eq (noDigit_cons rfl (by decide) left)
  rw [decimal?, SignForm.sign_eq hsign hds hc]
  simp only [Option.bind_eq_bind, hpoint, Option.bind_some,
    hfraction.digits?_eq (by decide) hrest, ofDigits_append]
  rfl

theorem decimal?_of_mark {mark : Char} (hwhole : WholeForm ds whole (mark :: rest))
    (hmark : mark = 'e' ∨ mark = 'E') :
    decimal? cs = afterFraction? negative (ofDigits 10 whole) 0 (mark :: rest) := by
  obtain ⟨c, _, hds, hc⟩ := hwhole.head
  have hnext : NoDigit 10 (mark :: rest) := by
    obtain rfl | rfl := hmark <;> exact noDigit_cons rfl (by decide) rest
  have hpoint : mark ≠ '.' := by
    obtain rfl | rfl := hmark <;> decide
  rw [decimal?, SignForm.sign_eq hsign hds hc]
  simp only [Option.bind_eq_bind, hwhole.wholeDigits?_eq hnext, Option.bind_some,
    isExponentMark_eq hmark, if_true]

theorem decimal?_of_stop (hwhole : WholeForm ds whole rest) (hrest : Stops rest) :
    decimal? cs = (integer? negative (ofDigits 10 whole)).map (·, rest) := by
  obtain ⟨c, _, hds, hc⟩ := hwhole.head
  rw [decimal?, SignForm.sign_eq hsign hds hc]
  simp only [Option.bind_eq_bind, hwhole.wholeDigits?_eq (hrest.noDigit 10), Option.bind_some]
  cases rest with
  | nil => cases integer? negative (ofDigits 10 whole) <;> rfl
  | cons c rest =>
    have hpoint : c ≠ '.' := by
      rintro rfl
      exact absurd (hrest '.' rfl) (by decide)
    have hmark := hrest.not_isExponentMark
    cases hinteger : integer? negative (ofDigits 10 whole) <;> grind

end Whole

theorem NumeralForm.decimal?_eq_integer {cs rest : List Char} {n : Json.Numeral}
    (h : NumeralForm cs n rest) (hrest : Stops rest) (hfraction : n.fraction = none)
    (hexponent : n.exponent = none) :
    decimal? cs = (integer? n.negative (ofDigits 10 n.whole)).map (·, rest) := by
  obtain ⟨ds, es, fs, hsign, hwhole, hfrac, hexp⟩ := h
  rw [hfraction] at hfrac
  rw [hexponent] at hexp
  cases hfrac
  cases hexp
  exact decimal?_of_stop hsign hwhole hrest

theorem lastExponent_eq (n : Json.Numeral) :
    n.lastExponent = exponentOf n.exponent - (n.fraction.getD []).length := by
  rw [Json.Numeral.lastExponent]
  cases n.exponent <;> rfl

theorem NumeralForm.decimal?_eq_real {cs rest : List Char} {n : Json.Numeral}
    (h : NumeralForm cs n rest) (hrest : Stops rest)
    (hn : n.fraction ≠ none ∨ n.exponent ≠ none) :
    decimal? cs = (real? n.negative (ofDigits 10 (n.whole ++ n.fraction.getD []))
      n.lastExponent).map (·, rest) := by
  obtain ⟨ds, es, fs, hsign, hwhole, hfrac, hexp⟩ := h
  rw [lastExponent_eq]
  cases hfraction : n.fraction with
  | some fraction =>
    rw [hfraction] at hfrac
    cases hfrac with
    | present hdigits =>
      rw [decimal?_of_point hsign hwhole hdigits (hexp.noDigit hrest), hexp.afterFraction?_eq hrest]
      rfl
  | none =>
    rw [hfraction] at hfrac
    cases hfrac
    have hexponent : n.exponent ≠ none := hn.resolve_left fun hne ↦ hne hfraction
    have hafter := hexp.afterFraction?_eq hrest n.negative (ofDigits 10 n.whole) 0
    obtain ⟨exponent, hvalue⟩ := Option.ne_none_iff_exists'.mp hexponent
    rw [hvalue] at hexp hafter ⊢
    cases hexp with
    | present hmark =>
      rw [decimal?_of_mark hsign hwhole hmark, hafter, Option.getD_none, List.append_nil]
      rfl

/-! ## Numbers are no dates -/

theorem isDigit_of_digit? {c : Char} {d : Nat} (h : digit? 10 c = some d) : c.isDigit = true := by
  unfold digit? at h
  split at h
  · next hd =>
    have hlt : d < 10 := by grind
    unfold Text.hexDigit? at hd
    split at hd
    · next hc =>
      rw [Char.isDigit, Bool.and_eq_true, decide_eq_true_eq, decide_eq_true_eq]
      exact hc
    split at hd
    · next hc =>
      have hlow : 97 ≤ c.toNat := hc.1
      grind
    split at hd
    · next hc =>
      have hlow : 65 ≤ c.toNat := hc.1
      grind
    · cases hd
  · cases h

theorem dropWhile_eq_of_fixed? {n v m : Nat} {cs rest : List Char}
    (h : fixed? n v cs = some (m, rest)) :
    cs.dropWhile Char.isDigit = rest.dropWhile Char.isDigit := by
  fun_induction fixed? n v cs with
  | case1 => cases h; rfl
  | case2 => cases h
  | case3 n v c cs d hd ih =>
    rw [List.dropWhile_cons, isDigit_of_digit? hd]
    exact ih h
  | case4 => cases h

theorem word?_eq_none {c : Char} {cs : List Char} (hc : c.isDigit = false)
    (h : (cs.dropWhile Char.isDigit).head? ≠ some c) : word? [c] cs = none := by
  cases cs with
  | nil => rfl
  | cons d cs =>
    have hne : d ≠ c := by
      rintro rfl
      rw [List.dropWhile_cons, hc] at h
      exact h rfl
    rw [word?, if_neg hne]

/-- A date has a dash after its first digits, and a time a colon. -/
theorem moment?_eq_none {cs : List Char}
    (hdash : (cs.dropWhile Char.isDigit).head? ≠ some '-')
    (hcolon : (cs.dropWhile Char.isDigit).head? ≠ some ':') : moment? cs = none := by
  have hdate : date? cs = none := by
    rw [date?]
    cases hyear : fixed? 4 0 cs with
    | none => rfl
    | some year =>
      rw [dropWhile_eq_of_fixed? hyear] at hdash
      simp only [Option.bind_eq_bind, Option.bind_some, word?_eq_none rfl hdash, Option.bind_none]
  have htime : time? cs = none := by
    rw [time?]
    cases hhour : between? 0 23 cs with
    | none => rfl
    | some hour =>
      obtain ⟨⟨n, left⟩, hfixed, hguard⟩ := Option.bind_eq_some_iff.mp hhour
      obtain ⟨_, -, hpair⟩ := Option.bind_eq_some_iff.mp hguard
      cases hpair
      rw [dropWhile_eq_of_fixed? hfixed] at hcolon
      simp only [Option.bind_eq_bind, Option.bind_some, word?_eq_none rfl hcolon, Option.bind_none]
  rw [moment?, hdate]
  exact htime

theorem Digits.dropWhile_isDigit {cs rest : List Char} {ds : List Nat}
    (h : Digits 10 cs ds rest) {c : Char} (hc : (cs.dropWhile Char.isDigit).head? = some c) :
    c = '_' ∨ (rest.dropWhile Char.isDigit).head? = some c := by
  induction h with
  | last hd =>
    rw [List.dropWhile_cons, hd.isDigit] at hc
    exact .inr hc
  | cons hd _ ih =>
    rw [List.dropWhile_cons, hd.isDigit] at hc
    exact ih hc
  | underscore hd =>
    rw [List.dropWhile_cons, hd.isDigit] at hc
    cases hc
    exact .inl rfl

theorem WholeForm.dropWhile_isDigit {cs rest : List Char} {ds : List Nat}
    (h : WholeForm cs ds rest) {c : Char} (hc : (cs.dropWhile Char.isDigit).head? = some c) :
    c = '_' ∨ (rest.dropWhile Char.isDigit).head? = some c := by
  cases h with
  | zero => exact .inr hc
  | digits h => exact h.dropWhile_isDigit hc

/-! ## All numbers -/

/-- What comes after the digits before the point. -/
def AfterWhole (rest : List Char) : Prop :=
  ∀ c, rest.head? = some c → c ∈ ['.', 'e', 'E', ' ', '\t', '\n', '\r', '#', ',', ']', '\x7d']

theorem AfterWhole.holds {p : Char → Prop} [DecidablePred p] {c : Char} {rest : List Char}
    (h : AfterWhole rest) (hc : rest.head? = some c)
    (hall : ['.', 'e', 'E', ' ', '\t', '\n', '\r', '#', ',', ']', '\x7d'].all fun c ↦ p c) :
    p c :=
  List.all_iff_forall_prop.mp hall c (h c hc)

theorem NumeralForm.exists_whole {cs rest : List Char} {n : Json.Numeral}
    (h : NumeralForm cs n rest) (hrest : Stops rest) :
    ∃ ds es, Json.SignForm cs n.negative ds ∧ WholeForm ds n.whole es ∧ AfterWhole es := by
  obtain ⟨ds, es, fs, hsign, hwhole, hfrac, hexp⟩ := h
  refine ⟨ds, es, hsign, hwhole, ?_⟩
  intro c hc
  have hfs : AfterWhole fs := by
    intro c hc
    generalize n.exponent = exponent at hexp
    cases hexp with
    | absent => exact List.mem_append_right ['.', 'e', 'E'] (hrest c hc)
    | present hmark =>
      obtain rfl := Option.some.inj hc
      obtain rfl | rfl := hmark <;> decide
  generalize n.fraction = fraction at hfrac
  cases hfrac with
  | absent => exact hfs c hc
  | present =>
    obtain rfl := Option.some.inj hc
    decide

theorem AfterWhole.dropWhile_eq {rest : List Char} (h : AfterWhole rest) :
    rest.dropWhile Char.isDigit = rest := by
  cases rest with
  | nil => rfl
  | cons c rest =>
    have hdigit := h.holds (p := (·.isDigit = false)) rfl (by decide)
    rw [List.dropWhile_cons, hdigit]
    rfl

theorem WholeForm.moment?_eq_none {cs rest : List Char} {ds : List Nat} (h : WholeForm cs ds rest)
    (hrest : AfterWhole rest) : moment? cs = none := by
  have hhead : ∀ c, (cs.dropWhile Char.isDigit).head? = some c → c ≠ '-' ∧ c ≠ ':' := by
    intro c hc
    obtain rfl | hc := h.dropWhile_isDigit hc
    · decide
    · rw [hrest.dropWhile_eq] at hc
      exact hrest.holds (p := fun c ↦ c ≠ '-' ∧ c ≠ ':') hc (by decide)
  exact Toml.moment?_eq_none (fun hc ↦ (hhead _ hc).1 rfl) (fun hc ↦ (hhead _ hc).2 rfl)

theorem WholeForm.based?_eq_none {cs rest : List Char} {ds : List Nat} (h : WholeForm cs ds rest)
    (hrest : AfterWhole rest) : based? cs = none := by
  cases h with
  | zero =>
    cases rest with
    | nil => rfl
    | cons c rest =>
      have hnone := hrest.holds
        (p := ([('x', 16), ('o', 8), ('b', 2)].lookup · = none)) rfl (by decide)
      rw [based?, hnone]
      rfl
  | digits h hzero =>
    rw [based?.eq_def]
    split
    · exact absurd rfl hzero
    · rfl

theorem special?_eq_none {negative : Bool} {c : Char} {cs left : List Char}
    (hsign : Json.SignForm cs negative (c :: left)) (hc : c.isDigit = true) :
    special? cs = none := by
  rw [special?, SignForm.sign_eq hsign rfl hc]
  simp [word?, ne_of_isDigit hc (d := 'i') rfl, ne_of_isDigit hc (d := 'n') rfl]

/-- What is none of the other scalars is a number in base ten. -/
theorem scalar?_eq_decimal? {c : Char} {cs : List Char} (hquote : ¬(c = '"' ∨ c = '\''))
    (ht : c ≠ 't') (hf : c ≠ 'f') (hmoment : moment? (c :: cs) = none)
    (hbased : based? (c :: cs) = none) (hspecial : special? (c :: cs) = none) :
    scalar? (c :: cs) = decimal? (c :: cs) := by
  rw [scalar?]
  dsimp only
  rw [if_neg hquote, if_neg ht, if_neg hf, hmoment, hbased, hspecial]
  rfl

theorem NumeralForm.scalar?_eq {cs rest : List Char} {n : Json.Numeral} (h : NumeralForm cs n rest)
    (hrest : Stops rest) : scalar? cs = decimal? cs := by
  obtain ⟨ds, es, hsign, hwhole, hes⟩ := h.exists_whole hrest
  obtain ⟨c, left, rfl, hc⟩ := hwhole.head
  have hspecial := special?_eq_none hsign hc
  generalize n.negative = negative at hsign
  cases hsign with
  | absent =>
    have hquote : ¬(c = '"' ∨ c = '\'') := by
      rintro (rfl | rfl)
      · cases hc
      · cases hc
    exact scalar?_eq_decimal? hquote (ne_of_isDigit hc rfl) (ne_of_isDigit hc rfl)
      (hwhole.moment?_eq_none hes) (hwhole.based?_eq_none hes) hspecial
  | plus => exact scalar?_eq_decimal? (by decide) (by decide) (by decide) rfl rfl hspecial
  | minus => exact scalar?_eq_decimal? (by decide) (by decide) (by decide) rfl rfl hspecial

theorem ofDigits_ten (ds : List Nat) : ofDigits 10 ds = Json.Numeral.ofDigits ds := rfl

theorem integer?_of_inRange {negative : Bool} {magnitude : Nat} {i : Int}
    (hi : i = if negative then -(magnitude : Int) else magnitude)
    (hrange : Tree.InRange (.integer i)) : integer? negative magnitude = some (.integer i) := by
  rw [integer?, ← hi]
  exact if_pos hrange

/-- **An integer is read.** -/
theorem NumeralForm.scalar?_integer {cs rest : List Char} {n : Json.Numeral} {i : Int}
    (h : NumeralForm cs n rest) (hn : n.DenotesInteger i) (hrange : Tree.InRange (.integer i))
    (hrest : Stops rest) : scalar? cs = some (.integer i, rest) := by
  obtain ⟨hfraction, hexponent, hi⟩ := hn
  rw [h.scalar?_eq hrest, h.decimal?_eq_integer hrest hfraction hexponent, ofDigits_ten,
    integer?_of_inRange hi hrange]
  rfl

theorem ofUnits_of_lt (negative : Bool) {units : Nat} (h : units < Binary64.overflow) :
    Binary64.ofUnits negative units = .finite negative units := by
  rw [Binary64.ofUnits, if_pos h]

theorem real?_of_value_eq {negative : Bool} {digits : Nat} {exponent : Int} {d : Decimal}
    (hvalue : (digits : ℚ) * 10 ^ exponent = d.digits * 10 ^ d.exponent)
    (hrange : Tree.InRange (.real negative d)) :
    real? negative digits exponent = some (.real (d.nearest negative)) := by
  have hround := Binary64.ofDecimal_eq_of_value_eq hvalue
  have hfinite := ofUnits_of_lt negative hrange
  rw [Decimal.nearest, hfinite]
  unfold real?
  rw [hround, hfinite]

/-- **A number with a fraction or an exponent is read as the nearest double.** -/
theorem NumeralForm.scalar?_real {cs rest : List Char} {n : Json.Numeral} {d : Decimal}
    (h : NumeralForm cs n rest) (hn : n.DenotesDecimal d)
    (hrange : Tree.InRange (.real n.negative d)) (hrest : Stops rest) :
    scalar? cs = some (.real (d.nearest n.negative), rest) := by
  rw [h.scalar?_eq hrest, h.decimal?_eq_real hrest hn.1, ofDigits_ten,
    real?_of_value_eq hn.2 hrange, Option.map_some]

/-- **An integer in another base is read.** -/
theorem Digits.scalar?_based {letter : Char} {base : Nat} {cs rest : List Char} {ds : List Nat}
    (h : Digits base cs ds rest) (hbase : (letter, base) ∈ bases)
    (hrange : Tree.InRange (.integer (ofDigits base ds))) (hrest : Stops rest) :
    scalar? ('0' :: letter :: cs) = some (.integer (ofDigits base ds), rest) := by
  have hall : ∀ p ∈ bases, p.2 ≤ 16 ∧ [('x', 16), ('o', 8), ('b', 2)].lookup p.1 = some p.2 ∧
      p.1.isDigit = false ∧ p.1 ≠ '-' ∧ p.1 ≠ ':' := by decide
  obtain ⟨hle, hlookup, hletter, hdash, hcolon⟩ := hall _ hbase
  have hmoment : moment? ('0' :: letter :: cs) = none := by
    have hdrop : ('0' :: letter :: cs).dropWhile Char.isDigit = letter :: cs := by
      rw [List.dropWhile_cons_of_pos rfl, List.dropWhile_cons, hletter]
      rfl
    refine moment?_eq_none ?_ ?_
    · rw [hdrop]
      exact fun heq ↦ hdash (Option.some.inj heq)
    · rw [hdrop]
      exact fun heq ↦ hcolon (Option.some.inj heq)
  have hbased : based? ('0' :: letter :: cs) = some (.integer (ofDigits base ds), rest) := by
    have hinteger : integer? false (ofDigits base ds) = some (.integer (ofDigits base ds)) :=
      integer?_of_inRange rfl hrange
    have hdigits := h.digits?_eq hle (hrest.noDigit base)
    rw [based?]
    refine Option.bind_eq_some_iff.mpr ⟨base, hlookup, Option.bind_eq_some_iff.mpr
      ⟨_, hdigits, Option.bind_eq_some_iff.mpr ⟨_, hinteger, rfl⟩⟩⟩
  rw [scalar?]
  dsimp only
  rw [if_neg (by decide), if_neg (by decide), if_neg (by decide), hmoment, hbased]
  rfl

end HexSigner.Toml
