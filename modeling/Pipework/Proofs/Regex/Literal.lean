import Mathlib.Data.List.Forall2
import Pipework.Tool.Lines

/-!
Patterns that are plain texts.
-/

set_option autoImplicit false
set_option relaxedAutoImplicit false

namespace Pipework.Regex

/-! ## Escaping

With a backslash in front of every character that has a meaning of its own, a text is a pattern
without operators. It is read as the sequence of its characters, so it compiles exactly when the
text does as a plain one, and the two match the same lines (`compile_escape`).
-/

open Step

def escapeChar (c : Char) : Text := if isMeta c then ['\\', c] else [c]

/-- A text with a backslash in front of every character that has a meaning of its own. -/
def escape (t : Text) : Text := t.flatMap escapeChar

namespace Cursor

def behind (k : Cursor) (c : Char) (rest : Text) : Cursor :=
  { k with rest := rest, position := k.position.after c }

end Cursor

section Step

variable {k : Cursor} {c : Char} {rest : Text}

theorem run_current (h : k.rest = c :: rest) : current.run k = pure (some c, k) := by
  simp [current, cursor, h]

theorem run_current_end (h : k.rest = []) : current.run k = pure (none, k) := by
  simp [current, cursor, h]

theorem run_position : position.run k = pure (k.position, k) := by
  simp [position, cursor]

theorem run_since (start : Position) : (since start).run k = pure (⟨start, k.position⟩, k) := by
  simp [since, run_position]

theorem run_hereChar (h : k.rest = c :: rest) :
    hereChar.run k = pure (⟨k.position, k.position.after c⟩, k) := by
  simp [hereChar, cursor, h]

theorem run_bump (h : k.rest = c :: rest) :
    bump.run k = pure (!rest.isEmpty, k.behind c rest) := by
  simp [bump, cursor, h, Cursor.behind]

theorem run_bumpSpace (h : k.ignoresSpace = false) : bumpSpace.run k = pure ((), k) := by
  simp [bumpSpace, cursor, h]

theorem run_primitive_plain (h : isMeta c = false) (hk : k.rest = c :: rest) :
    primitive.run k =
      pure (.literal ⟨⟨k.position, k.position.after c⟩, c, false⟩, k.behind c rest) := by
  have ne : ∀ d, isMeta d = true → c ≠ d := by
    rintro d hd rfl
    rw [h] at hd
    cases hd
  have slash := ne '\\' (by decide)
  have dot := ne '.' (by decide)
  have caret := ne '^' (by decide)
  have dollar := ne '$' (by decide)
  simp [primitive, run_current hk, run_hereChar hk, run_bump hk]

theorem run_primitive_escaped (h : isMeta c = true) (hk : k.rest = '\\' :: c :: rest) :
    primitive.run k =
      pure (.literal ⟨⟨k.position, (k.position.after '\\').after c⟩, c, false⟩,
        (k.behind '\\' (c :: rest)).behind c rest) := by
  have stands : (k.behind '\\' (c :: rest)).rest = c :: rest := rfl
  have table : ("\\.+*?()|[]\x7b\x7d^$#&-~".toList.all fun d =>
      d.isDigit = false ∧ perlOf d = none ∧ d ∉ ['x', 'u', 'U', 'p', 'P']) = true := by decide
  obtain ⟨digit, perl, letter⟩ :=
    of_decide_eq_true (List.all_eq_true.1 table c (List.contains_iff_mem.1 h))
  have escapable : isEscapable c = true := by simp [isEscapable, h]
  simp only [List.mem_cons, List.not_mem_nil, or_false, not_or] at letter
  simp [primitive, run_current hk, escapeSequence, run_position, run_bump hk, run_current stands,
    digit, letter, run_bump stands, run_since, perl, escapable]
  rfl

theorem exists_run_primitive (hk : k.rest = escapeChar c ++ rest) :
    ∃ span k', primitive.run k = pure (.literal ⟨span, c, false⟩, k') ∧ k'.rest = rest ∧
      k'.ignoresSpace = k.ignoresSpace := by
  cases h : isMeta c with
  | false =>
    rw [escapeChar, h] at hk
    exact ⟨_, _, run_primitive_plain h hk, rfl, rfl⟩
  | true =>
    rw [escapeChar, h] at hk
    exact ⟨_, _, run_primitive_escaped h hk, rfl, rfl⟩

theorem exists_run_sequenceFrom (fuel : Nat) (reversed : List Expression)
    (hk : k.rest = escapeChar c ++ rest) (visible : k.ignoresSpace = false) :
    ∃ span k', (sequenceFrom (fuel + 1) reversed).run k =
        (sequenceFrom fuel (.literal ⟨span, c, false⟩ :: reversed)).run k' ∧
      k'.rest = rest ∧ k'.ignoresSpace = false := by
  obtain ⟨span, k', read, at_rest, kept⟩ := exists_run_primitive hk
  refine ⟨span, k', ?_, at_rest, kept.trans visible⟩
  cases h : isMeta c with
  | false =>
    have ne : ∀ d, isMeta d = true → c ≠ d := by
      rintro d hd rfl
      rw [h] at hd
      cases hd
    rw [escapeChar, h] at hk
    have := ne ')' (by decide)
    have := ne '|' (by decide)
    have := ne '(' (by decide)
    have := ne '[' (by decide)
    have := ne '?' (by decide)
    have := ne '*' (by decide)
    have := ne '+' (by decide)
    have := ne '\x7b' (by decide)
    have first : current.run k = pure (some c, k) := run_current hk
    simp [sequenceFrom, run_bumpSpace visible, first, read, Primitive.toExpression]
  | true =>
    rw [escapeChar, h] at hk
    have first : current.run k = pure (some '\\', k) := run_current hk
    simp [sequenceFrom, run_bumpSpace visible, first, read, Primitive.toExpression]

end Step

/-- An expression that is one character and nothing else. -/
def Spells (e : Expression) (c : Char) : Prop := ∃ span, e = .literal ⟨span, c, false⟩

theorem exists_run_sequence {t : Text} {k : Cursor} (hk : k.rest = escape t)
    (visible : k.ignoresSpace = false) (fuel : Nat) (enough : t.length < fuel)
    (reversed : List Expression) :
    ∃ items k', (sequenceFrom fuel reversed).run k = pure (items.reverse ++ reversed, k') ∧
      List.Forall₂ Spells items t ∧ k'.rest = [] := by
  induction t generalizing k fuel reversed with
  | nil =>
    obtain ⟨fuel, rfl⟩ := Nat.exists_eq_add_one.2 enough
    have stop : current.run k = pure (none, k) := run_current_end hk
    refine ⟨[], k, ?_, .nil, hk⟩
    simp [sequenceFrom, run_bumpSpace visible, stop]
  | cons c t ih =>
    obtain ⟨fuel, rfl⟩ := Nat.exists_eq_add_one.2 (Nat.zero_lt_of_lt enough)
    obtain ⟨span, k₁, step, at_rest, visible₁⟩ :=
      exists_run_sequenceFrom fuel reversed (by rw [hk, escape, List.flatMap_cons]) visible
    obtain ⟨items, k₂, read, spelled, stop⟩ :=
      ih at_rest visible₁ fuel (Nat.lt_of_succ_lt_succ enough)
        (.literal ⟨span, c, false⟩ :: reversed)
    refine ⟨.literal ⟨span, c, false⟩ :: items, k₂, ?_, .cons ⟨span, rfl⟩ spelled, stop⟩
    rw [step, read]
    simp

theorem length_le_escape (t : Text) : t.length ≤ (escape t).length := by
  induction t with
  | nil => exact Nat.le_refl 0
  | cons c t ih =>
    have grows : 1 ≤ (escapeChar c).length := by
      rw [escapeChar]
      split <;> simp
    rw [escape, List.flatMap_cons, List.length_append, List.length_cons]
    rw [escape] at ih
    omega

theorem anyTooDeep_of_spells {items : List Expression} {t : Text}
    (h : List.Forall₂ Spells items t) (limit depth : Nat) :
    Expression.anyTooDeep limit depth items = none := by
  induction h with
  | nil => rfl
  | cons spelled _ ih =>
    obtain ⟨span, rfl⟩ := spelled
    simp [Expression.anyTooDeep, Expression.tooDeep, ih]

theorem tooDeep_sequence {items : List Expression} {t : Text} (h : List.Forall₂ Spells items t)
    (span : Span) : (Expression.sequence span items).tooDeep nestingLimit 0 = none := by
  match items, h with
  | [], _ => rfl
  | [_], .cons spelled .nil =>
    obtain ⟨place, rfl⟩ := spelled
    rfl
  | _ :: _ :: _, h => exact anyTooDeep_of_spells h nestingLimit 1

theorem exists_ofText_escape (t : Text) :
    ∃ span items, Expression.ofText (escape t) = .ok (.sequence span items) ∧
      List.Forall₂ Spells items t := by
  have enough : t.length < 3 * (escape t).length + 1 := by
    have longer := length_le_escape t
    omega
  obtain ⟨items, k, read, spelled, stop⟩ :=
    exists_run_sequence (k := ⟨escape t, ⟨0, 1, 1⟩, false, []⟩) rfl rfl _ enough []
  have done : current.run k = pure (none, k) := run_current_end stop
  refine ⟨⟨⟨0, 1, 1⟩, k.position⟩, items, ?_, spelled⟩
  simp [Expression.ofText, wholePattern, choiceFrom, branchesFrom, read, done, run_position,
    run_since, cursor, tooDeep_sequence spelled]
  rfl

theorem pattern_of_spells {flags : Flags} (plain : flags.unicode = true) {e : Expression}
    {c : Char} (h : Spells e c) :
    e.pattern flags = .ok (.set (literalRanges flags.caseInsensitive c), flags) := by
  obtain ⟨span, rfl⟩ := h
  cases folds : flags.caseInsensitive <;>
    simp [Expression.pattern, literalCode, plain, literalSet, literalRanges, folds]

theorem sequencePattern_of_spells {flags : Flags} (plain : flags.unicode = true)
    {items : List Expression} {t : Text} (h : List.Forall₂ Spells items t) :
    Expression.sequencePattern flags items =
      .ok (Pattern.literal flags.caseInsensitive t, flags) := by
  induction h with
  | nil => rfl
  | cons spelled _ ih =>
    rw [Expression.sequencePattern, pattern_of_spells plain spelled]
    simp [bind, Except.bind, ih]
    rfl

theorem shape_seq_empty (r : Unicode.Ranges) :
    (Pattern.seq (.set r) .empty).shape = (Pattern.set r).shape := by
  simp only [Pattern.shape, Shape.ofRanges]
  split
  · split <;> rfl
  · rfl

/-- The expression of an escaped text stands for the pattern of the text: the same one, or, for a
single character, one of the same size that matches the same. -/
theorem exists_pattern_of_spells (flags : Flags) (plain : flags.unicode = true)
    {items : List Expression} {t : Text} (h : List.Forall₂ Spells items t) (span : Span) :
    ∃ p : Pattern, (Expression.sequence span items).pattern flags = .ok (p, flags) ∧
      p.size = (Pattern.literal flags.caseInsensitive t).size ∧
      ∀ line, p.matchesIn line = (Pattern.literal flags.caseInsensitive t).matchesIn line := by
  match items, t, h with
  | [], [], .nil => exact ⟨.empty, rfl, rfl, fun _ => rfl⟩
  | [_], [c], .cons spelled .nil =>
    refine ⟨_, pattern_of_spells plain spelled, ?_, ?_⟩
    · rw [Pattern.size, Pattern.size, Pattern.literal, Pattern.literal, shape_seq_empty]
    · intro line
      simp [Pattern.matchesIn, Pattern.literal, Pattern.ends]
  | _ :: _ :: _, _, h =>
    exact ⟨_, sequencePattern_of_spells plain h, rfl, fun _ => rfl⟩

/-- An escaped text compiles as the text does by itself: it is refused for the same cause, and
otherwise the two patterns match the same lines. -/
theorem compile_escape (ignoreCase : Bool) (t : Text) :
    ∃ p : Pattern, compile ignoreCase (escape t) = p.checkSize ∧
      (∀ e, p.checkSize = .error e ↔ compileLiteral ignoreCase t = .error e) ∧
      ∀ line, p.matchesIn line = (Pattern.literal ignoreCase t).matchesIn line := by
  obtain ⟨span, items, read, spelled⟩ := exists_ofText_escape t
  obtain ⟨p, made, size, same⟩ :=
    exists_pattern_of_spells ⟨ignoreCase, false, false, false, true, false⟩ rfl spelled span
  refine ⟨p, ?_, ?_, same⟩
  · rw [compile, read]
    simp only [made]
  · intro e
    rw [compileLiteral, Pattern.checkSize, Pattern.checkSize, size]
    split <;> simp

end Pipework.Regex

namespace Pipework.Grep

def source (o : Grep) : Text := if o.fixed then Regex.escape o.pattern else o.pattern

theorem compile_eq_error_iff {o : Grep} {e : Regex.CompileError} :
    o.compile = .error e ↔ Regex.compile o.ignoreCase o.source = .error e := by
  rw [compile, source]
  cases o.fixed with
  | false => exact Iff.rfl
  | true =>
    obtain ⟨p, made, refused, -⟩ := Regex.compile_escape o.ignoreCase o.pattern
    rw [if_pos rfl, if_pos rfl, made]
    exact (refused e).symm

end Pipework.Grep

/-! ## Matching

Where case counts, the pattern of a text matches the lines that hold the text somewhere and no
others (`matchesIn_literal_iff`). It is a chain of one state for each byte of the text, so that only
a text of more than `longestLiteral` bytes is too large for a pattern (`compileLiteral_isOk_iff`).
-/

namespace Pipework.Regex

open Unicode (Ranges)

def Marks.Holds (m : Marks) (i : Nat) : Prop := m[i]? = some true

theorem length_placesFrom (before : Option Char) (cs : Text) :
    (placesFrom before cs).length = cs.length + 1 := by
  induction cs generalizing before with
  | nil => rfl
  | cons c cs ih => rw [placesFrom, List.length_cons, ih, List.length_cons]

theorem after_placesFrom (before : Option Char) (cs : Text) (i : Nat) :
    ((placesFrom before cs)[i]?).bind Place.after = cs[i]? := by
  induction cs generalizing before i with
  | nil => cases i <;> rfl
  | cons c cs ih =>
    cases i with
    | zero => rfl
    | succ i => exact ih (some c) i

theorem contains_single {m n : Nat} : Ranges.contains n [(m, m)] = true ↔ n = m := by
  simp only [Ranges.contains, Bool.or_false]
  split <;> simp <;> omega

section Matching

variable {cs : Text} {m : Marks}

theorem length_advance (r : Ranges) (h : m.length = cs.length + 1) :
    (advance r (places cs) m).length = cs.length + 1 := by
  simp [advance, places, length_placesFrom, h]

theorem holds_advance (h : m.length = cs.length + 1) (c : Char) (j : Nat) :
    (advance (literalRanges false c) (places cs) m).Holds j ↔
      ∃ i, j = i + 1 ∧ m.Holds i ∧ cs[i]? = some c := by
  cases j with
  | zero => simp [Marks.Holds, advance]
  | succ j =>
    -- no character stands behind the last place, so the mark that is dropped there was not set
    have width : ((places cs).zipWith
        (fun p b => b && p.after.any fun d => (literalRanges false c).contains d.toNat) m).length =
        cs.length + 1 := by
      simp [places, length_placesFrom, h]
    have next : ((places cs)[j]?).bind Place.after = cs[j]? := after_placesFrom none cs j
    rw [Marks.Holds, advance, List.getElem?_cons_succ, List.getElem?_dropLast, width,
      List.getElem?_zipWith]
    cases read : cs[j]? with
    | none =>
      have behind := List.getElem?_eq_none_iff.1 read
      simp [Nat.not_lt.2 behind]
    | some d =>
      obtain ⟨inside, same⟩ := List.getElem?_eq_some_iff.1 read
      rw [read] at next
      obtain ⟨p, place, after⟩ := Option.bind_eq_some_iff.1 next
      cases mark : m[j]? with
      | none => simp [Marks.Holds, mark]
      | some b =>
        simp [Marks.Holds, inside, place, after, mark, same, literalRanges, contains_single,
          Char.toNat_inj]

/-- From a set of places, the pattern of a text reaches those that have the text in front of them
and a place of the set in front of the text. -/
theorem holds_ends_literal (h : m.length = cs.length + 1) (t : Text) (j : Nat) :
    ((Pattern.literal false t).ends (places cs) m).Holds j ↔
      ∃ i, j = i + t.length ∧ m.Holds i ∧ t <+: cs.drop i := by
  induction t generalizing m with
  | nil => simp [Pattern.literal, Pattern.ends]
  | cons c t ih =>
    rw [Pattern.literal, Pattern.ends, Pattern.ends, ih (length_advance _ h)]
    constructor
    · rintro ⟨_, rfl, reached, behind⟩
      obtain ⟨i, rfl, start, read⟩ := (holds_advance h c _).1 reached
      refine ⟨i, by rw [List.length_cons]; omega, start, ?_⟩
      obtain ⟨inside, same⟩ := List.getElem?_eq_some_iff.1 read
      rw [List.drop_eq_getElem_cons inside, List.cons_prefix_cons]
      exact ⟨same.symm, behind⟩
    · rintro ⟨i, rfl, start, front⟩
      obtain ⟨rest, split, behind⟩ := List.cons_prefix_iff.1 front
      have read : cs[i]? = some c := by
        have first := congrArg List.head? split
        rwa [List.head?_drop] at first
      have tail : cs.drop (i + 1) = rest := by
        rw [← List.tail_drop, split, List.tail_cons]
      refine ⟨i + 1, by rw [List.length_cons]; omega, ?_, by rwa [tail]⟩
      exact (holds_advance h c _).2 ⟨i, rfl, start, read⟩

end Matching

/-- The pattern of a text matches the lines that hold it somewhere. -/
theorem matchesIn_literal_iff (t line : Text) :
    (Pattern.literal false t).matchesIn line = true ↔ t <:+: line := by
  have width : (places line).length = line.length + 1 := length_placesFrom none line
  have anywhere (i : Nat) :
      Marks.Holds ((places line).map fun _ => true) i ↔ i < line.length + 1 := by
    simp [Marks.Holds, List.map_const', width, List.getElem?_replicate]
  have reached (j : Nat) := holds_ends_literal (m := (places line).map fun _ => true)
    (by rw [List.length_map, width]) t j
  have found : (Pattern.literal false t).matchesIn line = true ↔ ∃ j, Marks.Holds
      ((Pattern.literal false t).ends (places line) ((places line).map fun _ => true)) j := by
    simp only [Pattern.matchesIn, List.any_eq_true, id_eq, exists_eq_right, List.mem_iff_getElem?]
    rfl
  rw [found, List.infix_iff_prefix_suffix]
  constructor
  · rintro ⟨j, holds⟩
    obtain ⟨i, -, -, front⟩ := (reached j).1 holds
    exact ⟨line.drop i, front, List.drop_suffix i line⟩
  · rintro ⟨_, front, before, rfl⟩
    refine ⟨before.length + t.length, (reached _).2 ⟨before.length, rfl, ?_, ?_⟩⟩
    · rw [anywhere, List.length_append]
      omega
    · rwa [List.drop_left]

def byteCount : Text → Nat
  | [] => 0
  | c :: t => c.utf8Size + byteCount t

/-- The most bytes of a plain text whose pattern is not too large. -/
def longestLiteral : Nat := 327673

theorem length_bytesOf (c : Char) : (Unicode.bytesOf c.toNat).length = c.utf8Size := by
  have one : c.val ≤ 0x7F ↔ c.toNat < 0x80 := by
    rw [UInt32.le_iff_toNat_le]
    exact Nat.lt_succ_iff.symm
  have two : c.val ≤ 0x7FF ↔ c.toNat < 0x800 := by
    rw [UInt32.le_iff_toNat_le]
    exact Nat.lt_succ_iff.symm
  have three : c.val ≤ 0xFFFF ↔ c.toNat < 0x10000 := by
    rw [UInt32.le_iff_toNat_le]
    exact Nat.lt_succ_iff.symm
  have size : c.utf8Size = if c.val ≤ 0x7F then 1 else if c.val ≤ 0x7FF then 2
      else if c.val ≤ 0xFFFF then 3 else 4 := rfl
  simp only [Unicode.bytesOf, size, one, two, three]
  split
  · rfl
  · split
    · rfl
    · split <;> rfl

theorem length_flatMap_bytesOf (t : Text) :
    ((t.map Char.toNat).flatMap Unicode.bytesOf).length = byteCount t := by
  induction t with
  | nil => rfl
  | cons c t ih =>
    rw [List.map_cons, List.flatMap_cons, List.length_append, ih, length_bytesOf, byteCount]

theorem ofRanges_single (c : Char) :
    Shape.ofRanges [(c.toNat, c.toNat)] = .literal [c.toNat] := by
  have alone : Ranges.scalars [(c.toNat, c.toNat)] = [(c.toNat, c.toNat)] := by
    simp only [Ranges.scalars, Ranges.normalize, List.mergeSort_singleton, Ranges.mergeFrom,
      List.flatMap_singleton, Ranges.splitRange]
    rcases c.valid with low | ⟨high, -⟩
    · have low : c.toNat < 0xD800 := low
      have left : min c.toNat 0xD7FF = c.toNat := by omega
      have right : ¬ max c.toNat 0xE000 ≤ c.toNat := by omega
      simp [left, right]
    · have high : 0xDFFF < c.toNat := high
      have left : ¬ c.toNat ≤ min c.toNat 0xD7FF := by omega
      have right : max c.toNat 0xE000 = c.toNat := by omega
      simp [left, right]
  rw [Shape.ofRanges, alone]
  exact if_pos rfl

theorem shape_literal (c : Char) (t : Text) :
    (Pattern.literal false (c :: t)).shape = .literal ((c :: t).map Char.toNat) := by
  have first : (Pattern.set (literalRanges false c)).shape = .literal [c.toNat] := ofRanges_single c
  induction t generalizing c with
  | nil =>
    rw [Pattern.literal, Pattern.shape, first]
    rfl
  | cons d t ih =>
    rw [Pattern.literal, Pattern.shape, first, ih d (ofRanges_single d)]
    rfl

theorem size_literal {t : Text} (ne : t ≠ []) :
    (Pattern.literal false t).size = 208 + stateSize * byteCount t := by
  obtain ⟨c, t, rfl⟩ := List.exists_cons_of_ne_nil ne
  simp only [Pattern.size, shape_literal, Shape.size, Shape.block, length_flatMap_bytesOf,
    leadSize, Shape.beginsAt, Block.enclosed, Block.append, Block.exit, Block.state, stateSize,
    linkSize, edgeSize, Bool.false_eq_true, if_false]
  omega

theorem compileLiteral_isOk_iff (t : Text) :
    (compileLiteral false t).isOk = true ↔ byteCount t ≤ longestLiteral := by
  have fits : (compileLiteral false t).isOk = true ↔
      (Pattern.literal false t).size ≤ sizeLimit := by
    rw [compileLiteral, Pattern.checkSize]
    split
    · next large => simp [Except.isOk, Except.toBool, large]
    · next small => simp [Except.isOk, Except.toBool, Nat.not_lt.1 small]
  rw [fits]
  cases t with
  | nil => decide
  | cons c t =>
    rw [size_literal (List.cons_ne_nil c t), sizeLimit, stateSize, longestLiteral]
    omega

theorem compile_escape_isOk_iff (ignoreCase : Bool) (t : Text) :
    (compile ignoreCase (escape t)).isOk = true ↔ (compileLiteral ignoreCase t).isOk = true := by
  obtain ⟨p, made, refused, -⟩ := compile_escape ignoreCase t
  rw [made]
  cases hp : p.checkSize with
  | error e => rw [(refused e).1 hp]
  | ok q =>
    cases plain : compileLiteral ignoreCase t with
    | error e =>
      rw [(refused e).2 plain] at hp
      cases hp
    | ok r => rfl

end Pipework.Regex
