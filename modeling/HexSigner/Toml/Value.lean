import HexSigner.Toml.Table

/-!
# Keys and values of TOML

A key is bare or quoted, and several keys with dots between them lead through tables.  A value is a
scalar, a list or an inline table.  A list may be spread over lines and may end with a comma; an
inline table may do neither.

Values are nested to a limited depth, and keys lead through a limited number of tables, so that what
comes out of a document can always be walked through.  The reader of values is built from the inside
out: `value n` is the one for values that are nested at most `n` deep.
-/

set_option autoImplicit false

namespace HexSigner.Toml

/-- The least depth that is refused. -/
def depthLimit : Nat := 80

/-! ## Keys -/

/-- A character of a bare key. -/
def isBare (c : Char) : Bool := c.isAlphanum || c = '-' || c = '_'

/-- Reads a bare key. -/
def bareKey? (cs : List Char) : Option (List Char × List Char) :=
  match cs with
  | [] => none
  | c :: _ => if isBare c then some (cs.takeWhile isBare, cs.dropWhile isBare) else none

theorem length_lt_of_bareKey? {cs s rest : List Char} (h : bareKey? cs = some (s, rest)) :
    rest.length < cs.length := by
  unfold bareKey? at h
  split at h
  · simp at h
  · next c cs =>
    split at h
    · next hc =>
      obtain ⟨-, rfl⟩ := Prod.mk.injEq .. ▸ Option.some.injEq .. ▸ h
      rw [List.dropWhile_cons_of_pos hc]
      exact Nat.lt_succ_of_le (List.dropWhile_suffix _).sublist.length_le
    · simp at h

/-- Reads a single key. -/
def simpleKey? (cs : List Char) : Option (Key × List Char) :=
  (lineText? cs <|> bareKey? cs).map fun (name, rest) ↦
    (⟨String.ofList name, ⟨cs, rest⟩⟩, rest)

theorem length_lt_of_simpleKey? {cs rest : List Char} {key : Key}
    (h : simpleKey? cs = some (key, rest)) : rest.length < cs.length := by
  unfold simpleKey? at h
  simp only [Option.orElse_eq_orElse, Option.orElse_eq_or, Option.map_eq_some_iff,
    Option.or_eq_some_iff] at h
  grind [→ length_lt_of_lineText?, → length_lt_of_bareKey?]

/-- Reads keys with dots between them, and blanks around each of them. -/
def dottedKey (cs : List Char) : Option (List Key × List Char) :=
  match _ : simpleKey? (skipBlank cs) with
  | none => none
  | some (key, rest) =>
    match _ : skipBlank rest with
    | '.' :: rest => (dottedKey rest).map fun (keys, left) ↦ (key :: keys, left)
    | rest => some ([key], rest)
termination_by cs.length
decreasing_by
  grind [length_skipBlank_le, → length_lt_of_simpleKey?]

theorem length_lt_of_dottedKey {cs rest : List Char} {keys : List Key}
    (h : dottedKey cs = some (keys, rest)) : rest.length < cs.length := by
  fun_induction dottedKey cs generalizing keys with
  | _ => grind [= Option.map_eq_some_iff, length_skipBlank_le, → length_lt_of_simpleKey?]

/-- Reads a dotted key: the keys that lead to a table, and the last key. -/
def key? (cs : List Char) : Option ((List Key × Key) × List Char) := do
  let (keys, rest) ← dottedKey cs
  guard (keys.length < depthLimit)
  let last ← keys.getLast?
  return ((keys.dropLast, last), rest)

theorem length_lt_of_key? {cs rest : List Char} {key : List Key × Key}
    (h : key? cs = some (key, rest)) : rest.length < cs.length := by
  obtain ⟨⟨keys, left⟩, hkeys, hguard⟩ := Option.bind_eq_some_iff.mp h
  obtain ⟨_, -, hlast⟩ := Option.bind_eq_some_iff.mp hguard
  obtain ⟨last, -, hpair⟩ := Option.bind_eq_some_iff.mp hlast
  have hlength := length_lt_of_dottedKey hkeys
  cases hpair
  exact hlength

/-! ## Entries and values -/

section Inner

variable (inner : Reader Node)

/-- Reads a dotted key, an equals sign and a value. -/
def keyValue? (cs : List Char) : Option ((List Key × Key × Node) × List Char) := do
  let ((path, key), rest) ← key? cs
  let rest ← word? ['='] rest
  let (node, rest) ← inner.run (skipBlank rest)
  return ((path, key, node), rest)

theorem length_lt_of_keyValue? {cs rest : List Char} {entry : List Key × Key × Node}
    (h : keyValue? inner cs = some (entry, rest)) : rest.length < cs.length := by
  simp only [keyValue?, Option.bind_eq_bind, Option.bind_eq_some_iff] at h
  obtain ⟨_, hk, _, hw, ⟨node, left⟩, hv, h⟩ := h
  have := inner.length_lt hv
  grind [length_skipBlank_le, → length_lt_of_key?, → length_word?_le]

/-- Reads the elements of a list and the bracket that closes it. -/
def elements (cs : List Char) : Option (List Node × List Char) :=
  match word? [']'] (skipFiller cs) with
  | some rest => some ([], rest)
  | none =>
    match _ : inner.run (skipFiller cs) with
    | none => none
    | some (node, rest) =>
      match _ : skipFiller rest with
      | ',' :: rest => (elements rest).map fun (nodes, left) ↦ (node :: nodes, left)
      | ']' :: rest => some ([node], rest)
      | _ => none
termination_by cs.length
decreasing_by
  have := inner.length_lt ‹_›
  grind [length_skipFiller_le]

theorem length_lt_of_elements {cs rest : List Char} {nodes : List Node}
    (h : elements inner cs = some (nodes, rest)) : rest.length < cs.length := by
  fun_induction elements inner cs generalizing nodes with
  | case1 => grind [length_skipFiller_le, → length_lt_of_word?]
  | case2 => simp at h
  | case3 =>
    have := inner.length_lt ‹inner.run _ = _›
    grind [= Option.map_eq_some_iff, length_skipFiller_le]
  | case4 =>
    have := inner.length_lt ‹inner.run _ = _›
    grind [length_skipFiller_le]
  | case5 => simp at h

/-- Reads the entries of an inline table, which has some already, and the brace that closes it. -/
def inlineEntries (t : Table) (cs : List Char) : Option (Table × List Char) :=
  match _ : keyValue? inner cs with
  | none => none
  | some ((path, key, node), rest) =>
    match t.insert? path key node with
    | none => none
    | some t =>
      match _ : skipBlank rest with
      | ',' :: rest => inlineEntries t rest
      | '\x7d' :: rest => some (t, rest)
      | _ => none
termination_by cs.length
decreasing_by
  have := length_lt_of_keyValue? inner ‹_›
  grind [length_skipBlank_le]

theorem length_lt_of_inlineEntries {t u : Table} {cs rest : List Char}
    (h : inlineEntries inner t cs = some (u, rest)) : rest.length < cs.length := by
  fun_induction inlineEntries inner t cs with
  | case3 =>
    have := length_lt_of_keyValue? inner ‹keyValue? inner _ = _›
    grind [length_skipBlank_le]
  | case4 =>
    have := length_lt_of_keyValue? inner ‹keyValue? inner _ = _›
    grind [length_skipBlank_le]
  | _ => simp_all

/-- Reads an inline table whose opening brace was read already. -/
def inlineTable? (cs : List Char) : Option (Table × List Char) :=
  match word? ['\x7d'] (skipBlank cs) with
  | some rest => some (.empty .inline, rest)
  | none => inlineEntries inner (.empty .inline) cs

theorem length_lt_of_inlineTable? {t : Table} {cs rest : List Char}
    (h : inlineTable? inner cs = some (t, rest)) : rest.length < cs.length := by
  unfold inlineTable? at h
  grind [length_skipBlank_le, → length_lt_of_word?, → length_lt_of_inlineEntries]

end Inner

/-- Reads a value whose parts are read by `inner?`, if there may be any. -/
def value? (inner? : Option (Reader Node)) (cs : List Char) : Option (Node × List Char) :=
  match cs with
  | '[' :: rest => do
    let (nodes, rest) ← elements (← inner?) rest
    return (.list nodes ⟨cs, rest⟩, rest)
  | '\x7b' :: rest => do
    let (t, rest) ← inlineTable? (← inner?) rest
    return (.table { t with span := some ⟨cs, rest⟩ }, rest)
  | _ => (scalar? cs).map fun (s, rest) ↦ (.scalar s ⟨cs, rest⟩, rest)

theorem length_lt_of_value? {inner? : Option (Reader Node)} {cs rest : List Char} {node : Node}
    (h : value? inner? cs = some (node, rest)) : rest.length < cs.length := by
  unfold value? at h
  split at h
  · simp only [Option.bind_eq_bind, Option.bind_eq_some_iff] at h
    grind [→ length_lt_of_elements]
  · simp only [Option.bind_eq_bind, Option.bind_eq_some_iff] at h
    grind [→ length_lt_of_inlineTable?]
  · grind [= Option.map_eq_some_iff, → length_lt_of_scalar?]

/-- Reads a value in which lists and inline tables are nested at most `n` deep. -/
def value : Nat → Reader Node
  | 0 => ⟨value? none, length_lt_of_value?⟩
  | n + 1 => ⟨value? (some (value n)), length_lt_of_value?⟩

end HexSigner.Toml
