import Mathlib.Data.List.Infix
import Pipework.Proofs.Preview.State
import Pipework.Proofs.Regex.Literal

/-!
Previews that order, choose and divide lines.
-/

set_option autoImplicit false
set_option relaxedAutoImplicit false

namespace Pipework.Preview

/-! ## Distinct lines

Sorting and then dropping repetitions makes a set of the lines: what is left is in strict order and
holds each line once, whatever order the lines had and however often they stood there
(`sort_uniq_exact`). This is what the preview shows (`exists_run_sort_uniq`).
-/

theorem stateFrom_sort_uniq (lines : List Text) (text : Text) (o : LineSort) :
    stateFrom lines text [.sort o, .uniq] =
      .ok (Uniq.apply (o.apply lines), Text.join ['\n'] (Uniq.apply (o.apply lines))) :=
  rfl

theorem uniq_sort_reversed (o : LineSort) (lines : List Text) :
    Uniq.apply (LineSort.apply ⟨!o.reversed⟩ lines) = (Uniq.apply (o.apply lines)).reverse := by
  refine LineSort.eq_of_pairwise (LineSort.pairwise_uniq ⟨!o.reversed⟩ lines) ?_ fun line => ?_
  · rw [List.pairwise_reverse]
    refine (o.pairwise_uniq lines).imp fun before => ?_
    obtain ⟨_ | _⟩ := o <;> exact before
  · rw [List.mem_reverse, LineSort.mem_uniq, LineSort.mem_uniq]

/-- Sorting rearranges the lines so that none comes before an earlier one, by code points or
against them, and takes no account of how they stood. If repetitions are dropped next, what is left
is in strict order and holds every line once; it is the same for every arrangement of the lines,
and the other way round for the other direction. By itself, dropping repetitions leaves the line of
each run, and nothing is left to drop. -/
theorem sort_uniq_exact (o : LineSort) (lines : List Text) :
    ((o.apply lines).Perm lines ∧ ((o.apply lines).Pairwise fun a b => ¬ o.Before b a) ∧
      ∀ lines', lines'.Perm lines → o.apply lines' = o.apply lines) ∧
      (∀ text, ∃ left,
        stateFrom lines text [.sort o, .uniq] = .ok (left, Text.join ['\n'] left) ∧
          left.Pairwise o.Before ∧
          (∀ line, left.count line = if line ∈ lines then 1 else 0) ∧
          (∀ lines' text', lines'.Perm lines →
            stateFrom lines' text' [.sort o, .uniq] = .ok (left, Text.join ['\n'] left)) ∧
          stateFrom lines text [.sort ⟨!o.reversed⟩, .uniq] =
            .ok (left.reverse, Text.join ['\n'] left.reverse)) ∧
      (∃ runs, RunLengths runs lines ∧ Uniq.apply lines = runs.map Prod.fst) ∧
      Uniq.apply (Uniq.apply lines) = Uniq.apply lines := by
  refine ⟨⟨o.perm_apply lines, o.pairwise_apply lines, fun _ => LineSort.apply_of_perm⟩,
    fun text => ⟨Uniq.apply (o.apply lines), rfl, o.pairwise_uniq lines, fun line => ?_,
      fun lines' text' same => ?_, ?_⟩, ?_, Uniq.apply_apply lines⟩
  · rw [(LineSort.nodup_of_pairwise (o.pairwise_uniq lines)).count]
    simp only [LineSort.mem_uniq]
  · rw [stateFrom_sort_uniq, LineSort.apply_of_perm same]
  · rw [stateFrom_sort_uniq, uniq_sort_reversed]
  · obtain ⟨runs, h⟩ := exists_runLengths lines
    exact ⟨runs, h, Uniq.apply_eq_map h⟩

/-- Upper case, an accent and a repetition, and another arrangement of the same lines. -/
theorem sort_uniq_exact_mixed :
    ∃ left, stateFrom [['b'], ['\u00e9'], ['B'], ['b']] [] [.sort ⟨true⟩, .uniq] =
        .ok (left, Text.join ['\n'] left) ∧
      left.count ['b'] = 1 ∧ left.count ['a'] = 0 ∧
      stateFrom [['b'], ['b'], ['\u00e9'], ['B']] [] [.sort ⟨true⟩, .uniq] =
        .ok (left, Text.join ['\n'] left) := by
  obtain ⟨-, behind, -, -⟩ := sort_uniq_exact ⟨true⟩ [['b'], ['\u00e9'], ['B'], ['b']]
  obtain ⟨left, made, -, once, arranged, -⟩ := behind []
  exact ⟨left, made, once ['b'], once ['a'],
    arranged [['b'], ['b'], ['\u00e9'], ['B']] [] (by decide)⟩

/-- The preview shows every line of the text once, in the order asked for and with line feeds
between the lines. -/
theorem exists_run_sort_uniq (o : LineSort) (raw : Text) :
    ∃ left : List Text, run raw [.sort o, .uniq] = .ok (Text.join ['\n'] left) ∧
      left.Pairwise o.Before ∧ ∀ line, line ∈ left ↔ line ∈ Text.lines raw := by
  have ran := stateFrom_sort_uniq (Text.lines raw) raw o
  exact ⟨Uniq.apply (o.apply (Text.lines raw)), run_eq_ok_iff.2 ⟨_, ran⟩,
    o.pairwise_uniq (Text.lines raw), fun line => LineSort.mem_uniq⟩

end Pipework.Preview

/-! ## Exchanging filters

A filter that makes a line of every line may stand on either side of one that keeps lines by their
places, and a filter that chooses lines on either side of one that sorts them or chooses others
(`run_exchange`). What is left is the same in both orders, and so is the error if one of the two
filters is refused.
-/

namespace Pipework

namespace Filter

/-- Filters that make a line of every line, whatever the others are. -/
inductive LineByLine : Filter → Prop
  | cut (o : Cut) : LineByLine (.cut o)
  | tr (o : Tr) : LineByLine (.tr o)
  | awk (o : Awk) : LineByLine (.awk o)

/-- Filters that keep lines by their places. -/
inductive ByPlace : Filter → Prop
  | head (o : LineCount) : ByPlace (.head o)
  | tail (o : LineCount) : ByPlace (.tail o)

/-- Neighbours that may change places. -/
inductive Exchangeable : Filter → Filter → Prop
  | places {f g : Filter} : f.LineByLine → g.ByPlace → Exchangeable f g
  | order (o : Grep) (s : LineSort) : Exchangeable (.grep o) (.sort s)
  | choices {o o' : Grep} :
      o.compile.isOk = true ∨ o'.compile.isOk = true → Exchangeable (.grep o) (.grep o')
  | symm {f g : Filter} : Exchangeable f g → Exchangeable g f

/-- The options of a filter are read, or it is refused; then they act on the lines, whatever text
these were cut from. -/
def Acts {α : Type} (f : Filter) (read : Except FilterError α)
    (act : α → List Text → List Text) : Prop :=
  ∀ lines text, f.apply lines text = read.map fun options => act options lines

theorem LineByLine.exists_acts {f : Filter} (h : f.LineByLine) :
    ∃ change : Except FilterError (Text → Text), f.Acts change List.map := by
  cases h with
  | cut o => exact ⟨.ok (Cut.project o.separator o.entries), fun _ _ => rfl⟩
  | tr o => exact ⟨.ok o.change, fun _ _ => rfl⟩
  | awk o =>
    -- the program is read before any line is, so that the lines do not decide whether it is refused
    cases read : Awk.printFields? o.effectiveProgram with
    | none => exact ⟨.error .unavailable, fun _ _ => by rw [apply, Awk.print?, read]; rfl⟩
    | some fields =>
      exact ⟨.ok (Awk.project o.separator fields),
        fun _ _ => by rw [apply, Awk.print?, read]; rfl⟩

theorem ByPlace.exists_acts {f : Filter} (h : f.ByPlace) :
    ∃ keep : List Text → List Text, f.Acts (.ok keep) id ∧
      ∀ change lines, keep (lines.map change) = (keep lines).map change := by
  cases h with
  | head o => exact ⟨Head.apply o, fun _ _ => rfl, fun change lines => List.map_take.symm⟩
  | tail o =>
    refine ⟨Tail.apply o, fun _ _ => rfl, fun change lines => ?_⟩
    rw [Tail.apply, Tail.apply, List.length_map, List.map_drop]

theorem acts_sort (o : LineSort) : (Filter.sort o).Acts (.ok o) LineSort.apply := fun _ _ => rfl

theorem exists_acts_grep (o : Grep) :
    ∃ read, read.isOk = o.compile.isOk ∧ (Filter.grep o).Acts read fun p : Regex.Pattern =>
      List.filter fun line => p.matchesIn line != o.inverted := by
  refine ⟨o.compile.mapError .pattern, ?_, fun lines text => ?_⟩
  · cases o.compile <;> rfl
  · rw [apply, Grep.apply]
    cases o.compile <;> rfl

end Filter

namespace Preview

variable {lines : List Text} {text : Text}

/-- Two filters that act on the lines in either order to the same effect, and of which one is not
refused, leave the same state in both orders. -/
theorem stateFrom_exchange {α β : Type} {f g : Filter} {x : Except FilterError α}
    {y : Except FilterError β} {act : α → List Text → List Text}
    {act' : β → List Text → List Text} (hf : f.Acts x act) (hg : g.Acts y act')
    (one : x.isOk = true ∨ y.isOk = true)
    (commute : ∀ a b, x = .ok a → y = .ok b → act' b (act a lines) = act a (act' b lines)) :
    stateFrom lines text [f, g] = stateFrom lines text [g, f] := by
  unfold Filter.Acts at hf hg
  cases x with
  | error e =>
    cases y with
    | error e' => simp [Except.isOk, Except.toBool] at one
    | ok b => simp [stateFrom, hf, hg, Except.map]
  | ok a =>
    cases y with
    | error e' => simp [stateFrom, hf, hg, Except.map]
    | ok b => simp [stateFrom, hf, hg, Except.map, commute a b rfl rfl]

theorem stateFrom_exchangeable {f g : Filter} (h : f.Exchangeable g) :
    stateFrom lines text [f, g] = stateFrom lines text [g, f] := by
  induction h with
  | places changes keeps =>
    obtain ⟨read, hf⟩ := changes.exists_acts
    obtain ⟨keep, hg, commute⟩ := keeps.exists_acts
    refine stateFrom_exchange hf hg (.inr rfl) ?_
    rintro change _ - ⟨⟩
    exact commute change lines
  | order o s =>
    obtain ⟨read, -, hf⟩ := Filter.exists_acts_grep o
    refine stateFrom_exchange hf (Filter.acts_sort s) (.inr rfl) ?_
    rintro p _ - ⟨⟩
    exact s.apply_filter _ lines
  | @choices o o' compiles =>
    obtain ⟨read, same, hf⟩ := Filter.exists_acts_grep o
    obtain ⟨read', same', hg⟩ := Filter.exists_acts_grep o'
    refine stateFrom_exchange hf hg ?_ fun _ _ _ _ => List.filter_comm ..
    rwa [same, same']
  | symm _ ih => exact ih.symm

/-- Exchangeable neighbours may change places anywhere in a run: the preview is the same, or the
error. -/
theorem run_exchange {f g : Filter} (h : f.Exchangeable g) (raw : Text)
    (before behind : List Filter) :
    run raw (before ++ f :: g :: behind) = run raw (before ++ g :: f :: behind) := by
  have pair (a b : Filter) : before ++ a :: b :: behind = before ++ [a, b] ++ behind := by simp
  have states : stateFrom (Text.lines raw) raw (before ++ [f, g]) =
      stateFrom (Text.lines raw) raw (before ++ [g, f]) := by
    rw [stateFrom_append, stateFrom_append]
    congr 1
    funext state
    exact stateFrom_exchangeable h
  rw [pair f g, pair g f, run, run, runFrom_append, runFrom_append, states]

/-- A program that is not run beside a count, a pattern that does not compile beside one that
does, and the first filter that chooses lines behind one that sorts them. -/
theorem run_exchange_mixed :
    ((⟨['['], false, false, false⟩ : Grep).compile.isOk = false ∧
      (⟨['a'], false, true, false⟩ : Grep).compile.isOk = true) ∧
      (∀ raw, run raw [.awk ⟨[], "length".toList⟩, .tail ⟨['1']⟩, .uniq] =
        run raw [.tail ⟨['1']⟩, .awk ⟨[], "length".toList⟩, .uniq]) ∧
      (∀ raw, run raw [.grep ⟨['['], false, false, false⟩, .grep ⟨['a'], false, true, false⟩] =
        run raw [.grep ⟨['a'], false, true, false⟩, .grep ⟨['['], false, false, false⟩]) ∧
      ∀ raw, run raw [.head ⟨['9']⟩, .sort ⟨true⟩, .grep ⟨['a'], false, true, false⟩, .wc .default] =
        run raw [.head ⟨['9']⟩, .grep ⟨['a'], false, true, false⟩, .sort ⟨true⟩, .wc .default] := by
  have compiles : (⟨['a'], false, true, false⟩ : Grep).compile.isOk = true := by decide +kernel
  refine ⟨⟨by decide +kernel, compiles⟩, fun raw => ?_, fun raw => ?_, fun raw => ?_⟩
  · exact run_exchange (.places (.awk _) (.tail _)) raw [] [.uniq]
  · exact run_exchange (.choices (.inr compiles)) raw [] []
  · exact run_exchange (.symm (.order _ _)) raw [.head ⟨['9']⟩] [.wc .default]

end Preview

/-! ## Two directions of a match

The direction of a match does not decide whether its pattern is refused. If it is not, the two
directions share the lines out between them, and counting the lines of either gives what went to
it, none included (`grep_partition`). A plain text whose case counts chooses the lines that hold
it, and it is refused only if it is too long.
-/

/-- Lines shared out in their order: each goes to exactly one of two lists, the chosen ones to the
first. -/
inductive Shared (chosen : Text → Bool) : List Text → List Text → List Text → Prop
  | nil : Shared chosen [] [] []
  | first {line : Text} {lines kept left : List Text} :
      chosen line = true → Shared chosen lines kept left →
      Shared chosen (line :: lines) (line :: kept) left
  | second {line : Text} {lines kept left : List Text} :
      chosen line = false → Shared chosen lines kept left →
      Shared chosen (line :: lines) kept (line :: left)

namespace Shared

variable {chosen : Text → Bool} {lines kept left : List Text}

theorem filter (chosen : Text → Bool) (lines : List Text) :
    Shared chosen lines (lines.filter chosen) (lines.filter fun line => !chosen line) := by
  induction lines with
  | nil => exact .nil
  | cons line lines ih =>
    cases h : chosen line with
    | true => simpa [h] using ih.first h
    | false => simpa [h] using ih.second h

theorem eq_filter (h : Shared chosen lines kept left) :
    kept = lines.filter chosen ∧ left = lines.filter fun line => !chosen line := by
  induction h with
  | nil => exact ⟨rfl, rfl⟩
  | first yes _ ih => simpa [yes] using ih
  | second no _ ih => simpa [no] using ih

theorem sublist (h : Shared chosen lines kept left) : kept.Sublist lines ∧ left.Sublist lines := by
  obtain ⟨rfl, rfl⟩ := h.eq_filter
  exact ⟨List.filter_sublist, List.filter_sublist⟩

theorem length_add (h : Shared chosen lines kept left) :
    kept.length + left.length = lines.length := by
  obtain ⟨rfl, rfl⟩ := h.eq_filter
  exact (List.length_eq_length_filter_add chosen).symm

end Shared

namespace Grep

variable {text : Text} {ignoreCase fixed : Bool}

theorem shared_apply {p : Regex.Pattern}
    (compiled : (⟨text, ignoreCase, false, fixed⟩ : Grep).compile = .ok p) (lines : List Text) :
    ∃ kept left, (⟨text, ignoreCase, false, fixed⟩ : Grep).apply lines = .ok kept ∧
      (⟨text, ignoreCase, true, fixed⟩ : Grep).apply lines = .ok left ∧
      Shared p.matchesIn lines kept left := by
  have inverse : (⟨text, ignoreCase, true, fixed⟩ : Grep).compile = .ok p := compiled
  refine ⟨_, _, ?_, ?_, Shared.filter p.matchesIn lines⟩
  · simp [apply, compiled, Except.map]
  · simp [apply, inverse, Except.map]

theorem apply_eq_error {e : Regex.CompileError}
    (refused : (⟨text, ignoreCase, false, fixed⟩ : Grep).compile = .error e) (inverted : Bool)
    (lines : List Text) : (⟨text, ignoreCase, inverted, fixed⟩ : Grep).apply lines = .error e := by
  have either : (⟨text, ignoreCase, inverted, fixed⟩ : Grep).compile = .error e := refused
  rw [apply, either]
  rfl

theorem exists_apply_eq_ok_iff {o : Grep} {lines : List Text} :
    (∃ left, o.apply lines = .ok left) ↔ o.compile.isOk = true := by
  rw [apply]
  cases o.compile <;> simp [Except.map, Except.isOk, Except.toBool]

theorem matchesIn_of_fixed {inverted : Bool} {p : Regex.Pattern}
    (compiled : (⟨text, false, inverted, true⟩ : Grep).compile = .ok p) (line : Text) :
    p.matchesIn line = true ↔ text <:+: line := by
  have literal : (Regex.Pattern.literal false text).checkSize = .ok p := compiled
  rw [Regex.Pattern.checkSize] at literal
  split at literal
  · cases literal
  · cases literal
    exact Regex.matchesIn_literal_iff text line

end Grep

namespace Preview

theorem runFrom_count_lines (lines : List Text) (whole : Text) :
    runFrom lines whole [.wc ⟨true, false, false⟩] = .ok (Text.ofNat lines.length) := by
  have counted : (⟨true, false, false⟩ : Wc).apply lines whole = [Text.ofNat lines.length] :=
    congrArg (fun t => [t]) (Text.join_singleton _ _)
  simp only [runFrom, Filter.apply, counted, Text.join_singleton]

theorem runFrom_grep {o : Grep} {lines left : List Text} (made : o.apply lines = .ok left)
    (whole : Text) (behind : List Filter) :
    runFrom lines whole (.grep o :: behind) = runFrom left (Text.join ['\n'] left) behind := by
  simp only [runFrom, Filter.apply, made, Except.mapError]

/-- For every pattern and both flags, a match and its inverse are refused with the same error, or
they share the lines out: each line is left by exactly one of the two, in its place in the order,
and the numbers of lines that `wc` gives behind them add up to that of the lines. A plain text
whose case counts chooses exactly the lines that hold it. It is refused exactly if the text with
its special characters escaped does not compile, and that is so for texts beyond a certain length
only. -/
theorem grep_partition (text : Text) (ignoreCase fixed : Bool) :
    ((∃ e, ∀ inverted lines,
        (⟨text, ignoreCase, inverted, fixed⟩ : Grep).apply lines = .error e) ∨
      ∃ chosen : Text → Bool,
        (fixed = true → ignoreCase = false → ∀ line, chosen line = true ↔ text <:+: line) ∧
        ∀ lines, ∃ kept left,
          (⟨text, ignoreCase, false, fixed⟩ : Grep).apply lines = .ok kept ∧
          (⟨text, ignoreCase, true, fixed⟩ : Grep).apply lines = .ok left ∧
          Shared chosen lines kept left ∧ kept.Sublist lines ∧ left.Sublist lines ∧
          kept.length + left.length = lines.length ∧
          ∀ whole,
            runFrom lines whole [.wc ⟨true, false, false⟩] =
              .ok (Text.ofNat (kept.length + left.length)) ∧
            runFrom lines whole
                [.grep ⟨text, ignoreCase, false, fixed⟩, .wc ⟨true, false, false⟩] =
              .ok (Text.ofNat kept.length) ∧
            runFrom lines whole
                [.grep ⟨text, ignoreCase, true, fixed⟩, .wc ⟨true, false, false⟩] =
              .ok (Text.ofNat left.length)) ∧
      (∀ inverted lines, (∃ left, (⟨text, false, inverted, true⟩ : Grep).apply lines = .ok left) ↔
        (Regex.compile false (Regex.escape text)).isOk = true) ∧
      ((Regex.compile false (Regex.escape text)).isOk = true ↔
        Regex.byteCount text ≤ Regex.longestLiteral) := by
  refine ⟨?_, fun inverted lines => ?_, ?_⟩
  · cases compiled : (⟨text, ignoreCase, false, fixed⟩ : Grep).compile with
    | error e => exact .inl ⟨e, Grep.apply_eq_error compiled⟩
    | ok p =>
      refine .inr ⟨p.matchesIn, ?_, fun lines => ?_⟩
      · rintro rfl rfl
        exact Grep.matchesIn_of_fixed compiled
      · obtain ⟨kept, left, matched, unmatched, shared⟩ := Grep.shared_apply compiled lines
        refine ⟨kept, left, matched, unmatched, shared, shared.sublist.1, shared.sublist.2,
          shared.length_add, fun whole => ⟨?_, ?_, ?_⟩⟩
        · rw [shared.length_add, runFrom_count_lines]
        · rw [runFrom_grep matched, runFrom_count_lines]
        · rw [runFrom_grep unmatched, runFrom_count_lines]
  · rw [Grep.exists_apply_eq_ok_iff, Regex.compile_escape_isOk_iff]
    rfl
  · rw [Regex.compile_escape_isOk_iff, Regex.compileLiteral_isOk_iff]

/-- A bracket that is no pattern by itself: as a plain text it shares lines out, a repeated one
included, and where no line holds it none is counted. -/
theorem grep_partition_bracket :
    (⟨['('], false, false, false⟩ : Grep).compile.isOk = false ∧
      (⟨['('], false, false, true⟩ : Grep).apply [['a', '('], ['b'], ['a', '(']] =
        .ok [['a', '('], ['a', '(']] ∧
      runFrom [['a', '('], ['b'], ['a', '(']] []
          [.grep ⟨['('], false, true, true⟩, .wc ⟨true, false, false⟩] = .ok ['1'] ∧
      runFrom [['b'], []] [] [.grep ⟨['('], false, false, true⟩, .wc ⟨true, false, false⟩] =
        .ok ['0'] := by
  refine ⟨by decide +kernel, ?_⟩
  obtain ⟨parts, accepted, short⟩ := grep_partition ['('] false true
  rcases parts with ⟨e, refused⟩ | ⟨chosen, holds, shares⟩
  · obtain ⟨left, made⟩ := (accepted true []).2 (short.2 (by decide))
    rw [refused] at made
    cases made
  · have choice : chosen = fun line => decide (['('] <:+: line) := by
      funext line
      exact Bool.eq_iff_iff.2 ((holds rfl rfl line).trans decide_eq_true_iff.symm)
    obtain ⟨kept, left, made, -, shared, -, -, -, counted⟩ := shares [['a', '('], ['b'], ['a', '(']]
    obtain ⟨none, _, -, -, shared', -, -, -, counted'⟩ := shares [['b'], []]
    obtain ⟨rfl, rfl⟩ := shared.eq_filter
    obtain ⟨rfl, -⟩ := shared'.eq_filter
    subst choice
    exact ⟨made, (counted []).2.2, (counted' []).2.1⟩

end Preview

end Pipework
