import Pipework.Proofs.Filter.Lines

/-!
The state of a preview from filter to filter, and the numbers that end it.
-/

set_option autoImplicit false
set_option relaxedAutoImplicit false

namespace Pipework.Preview

/-! ## States

A run holds the lines of the last filter and the text they make up. Running filters is running
the first ones and then the others from the state these leave (`stateFrom_append`), and what every
filter keeps of the state, the run keeps (`stateFrom_invariant`).
-/

/-- The lines and the text that filters leave. -/
def stateFrom : List Text → Text → List Filter → Except PreviewError (List Text × Text)
  | lines, text, [] => .ok (lines, text)
  | lines, text, f :: rest =>
    match f.apply lines text with
    | .ok next => stateFrom next (Text.join ['\n'] next) rest
    | .error e => .error (.ofFilter f.tool e)

def linesLeft (raw : Text) (filters : List Filter) : Except PreviewError (List Text) :=
  (stateFrom (Text.lines raw) raw filters).map Prod.fst

variable {lines : List Text} {text : Text}

theorem stateFrom_cons {f : Filter} {next : List Text} (made : f.apply lines text = .ok next)
    (filters : List Filter) :
    stateFrom lines text (f :: filters) = stateFrom next (Text.join ['\n'] next) filters := by
  rw [stateFrom, made]

theorem runFrom_eq_stateFrom (lines : List Text) (text : Text) (filters : List Filter) :
    runFrom lines text filters = (stateFrom lines text filters).map Prod.snd := by
  induction filters generalizing lines text with
  | nil => rfl
  | cons f filters ih =>
    rw [runFrom, stateFrom]
    cases f.apply lines text with
    | error e => rfl
    | ok next => exact ih next (Text.join ['\n'] next)

theorem stateFrom_append (lines : List Text) (text : Text) (a b : List Filter) :
    stateFrom lines text (a ++ b) =
      (stateFrom lines text a).bind fun state => stateFrom state.1 state.2 b := by
  induction a generalizing lines text with
  | nil => rfl
  | cons f a ih =>
    rw [List.cons_append, stateFrom, stateFrom]
    cases f.apply lines text with
    | error e => rfl
    | ok next => exact ih next (Text.join ['\n'] next)

theorem runFrom_append (lines : List Text) (text : Text) (a b : List Filter) :
    runFrom lines text (a ++ b) =
      (stateFrom lines text a).bind fun state => runFrom state.1 state.2 b := by
  rw [runFrom_eq_stateFrom, stateFrom_append]
  cases stateFrom lines text a with
  | error e => rfl
  | ok state => exact (runFrom_eq_stateFrom state.1 state.2 b).symm

theorem run_eq_ok_iff {raw text : Text} {filters : List Filter} :
    run raw filters = .ok text ↔
      ∃ lines, stateFrom (Text.lines raw) raw filters = .ok (lines, text) := by
  rw [run, runFrom_eq_stateFrom]
  cases stateFrom (Text.lines raw) raw filters with
  | error e => simp [Except.map]
  | ok state =>
    obtain ⟨lines, made⟩ := state
    simp [Except.map]

/-- What holds at the start and is kept by every filter holds of the state that is left. -/
theorem stateFrom_invariant {P : List Text → Text → Prop} {filters : List Filter}
    (step : ∀ f ∈ filters, ∀ lines text next, P lines text → f.apply lines text = .ok next →
      P next (Text.join ['\n'] next))
    (start : P lines text) {state : List Text × Text}
    (ran : stateFrom lines text filters = .ok state) : P state.1 state.2 := by
  induction filters generalizing lines text with
  | nil =>
    cases ran
    exact start
  | cons f filters ih =>
    obtain ⟨first, others⟩ := List.forall_mem_cons.1 step
    cases made : f.apply lines text with
    | error e => simp [stateFrom, made] at ran
    | ok next =>
      rw [stateFrom_cons made] at ran
      exact ih others (first lines text next start made) ran

/-- The text is always the lines with line feeds between them. -/
theorem text_eq_join {raw : Text} {filters : List Filter} {state : List Text × Text}
    (ran : stateFrom (Text.lines raw) raw filters = .ok state) :
    state.2 = Text.join ['\n'] state.1 := by
  refine stateFrom_invariant (P := fun lines text => text = Text.join ['\n'] lines) ?_ ?_ ran
  · intro f _ lines text next _ _
    rfl
  · exact (Text.join_splitOn '\n' raw).symm

theorem oneLine_stateFrom {raw : Text} {filters : List Filter}
    (h : ∀ f ∈ filters, f.KeepsLines) {state : List Text × Text}
    (ran : stateFrom (Text.lines raw) raw filters = .ok state) :
    ∀ line ∈ state.1, '\n' ∉ line := by
  refine stateFrom_invariant (P := fun lines _ => ∀ line ∈ lines, '\n' ∉ line) ?_ ?_ ran
  · intro f hf lines text next oneLine made
    exact Filter.oneLine_apply (h f hf) oneLine made
  · exact Text.newline_not_mem_lines raw

end Pipework.Preview

/-! ## Counting

`wc` behind other filters.

What `wc` counts is the preview it follows: its characters, and the runs of characters that are
not blank, in whatever lines they stand. Its lines are those the last filter left (`run_wc`). A
line feed that a filter wrote into a line ends a line of the preview and none of these, so each
one makes the number of lines too small by one (`run_wc_inner_feed`).
-/

namespace Pipework

namespace Wc

/-- The numbers asked for with tabs between them: lines, words, characters; all of them if nothing
was asked for in particular. -/
def report (o : Wc) (lines words chars : Nat) : Text :=
  Text.join ['\t'] <| List.map Text.ofNat <|
    if o = default then [lines, words, chars]
    else (if o.lines then [lines] else []) ++ (if o.words then [words] else []) ++
      (if o.chars then [chars] else [])

theorem countsAll_iff {o : Wc} : o.countsAll = true ↔ o = default := by
  obtain ⟨lines, words, chars⟩ := o
  cases lines <;> cases words <;> cases chars <;> decide

theorem apply_eq_report (o : Wc) (lines : List Text) (text : Text) :
    o.apply lines text =
      [o.report lines.length (lines.flatMap Text.words).length text.length] := by
  rw [apply, report]
  by_cases all : o = default
  · rw [if_pos all, all]
    rfl
  · have some : o.countsAll = false := Bool.eq_false_iff.2 (mt countsAll_iff.1 all)
    simp [counts, all, some]

theorem apply_of_join {o : Wc} {lines : List Text} {text : Text}
    (joined : text = Text.join ['\n'] lines) :
    o.apply lines text = [o.report lines.length (Text.countRuns false text) text.length] := by
  rw [apply_eq_report, ← Text.words_join, ← joined, Text.length_words]

end Wc

namespace Preview

theorem stateFrom_concat {raw text : Text} {s : List Filter} {lines : List Text}
    (ran : stateFrom (Text.lines raw) raw s = .ok (lines, text)) {f : Filter} {next : List Text}
    (made : f.apply lines text = .ok next) :
    stateFrom (Text.lines raw) raw (s ++ [f]) = .ok (next, Text.join ['\n'] next) := by
  rw [stateFrom_append, ran]
  exact stateFrom_cons made []

/-- Behind filters that leave a preview, `wc` writes one line with the numbers asked for. The
words and the characters are those of the preview. The lines are those that were left: with the
line feeds inside of them, one more than the preview has line feeds. So they are exactly that many
if no filter wrote a line feed into a line. -/
theorem run_wc {raw text : Text} {s : List Filter} (done : run raw s = .ok text) :
    ∃ lines, linesLeft raw s = .ok lines ∧
      (∀ o : Wc, ∃ report,
        report = o.report lines.length (Text.countRuns false text) text.length ∧
        linesLeft raw (s ++ [.wc o]) = .ok [report] ∧ '\n' ∉ report ∧
        run raw (s ++ [.wc o]) = .ok report) ∧
      (lines ≠ [] → 1 + text.count '\n' = lines.length + lines.flatten.count '\n') ∧
      ((∀ f ∈ s, f.KeepsLines) →
        lines.length = if lines = [] then 0 else 1 + text.count '\n') := by
  obtain ⟨lines, ran⟩ := run_eq_ok_iff.1 done
  have joined : text = Text.join ['\n'] lines := text_eq_join ran
  refine ⟨lines, by rw [linesLeft, ran]; rfl, ?_, ?_, ?_⟩
  · intro o
    have made := Wc.apply_of_join (o := o) joined
    have oneLine : ∀ line ∈ o.apply lines text, '\n' ∉ line := Wc.newline_not_mem_apply
    rw [made, List.forall_mem_singleton] at oneLine
    have left := stateFrom_concat (f := .wc o) ran (congrArg Except.ok made)
    rw [Text.join_singleton] at left
    exact ⟨_, rfl, by rw [linesLeft, left]; rfl, oneLine, run_eq_ok_iff.2 ⟨_, left⟩⟩
  · intro ne
    rw [joined]
    exact Text.count_join ne
  · intro keeps
    -- no line and one empty line join to the same text, and only one of them counts as a line
    split
    · next none => rw [none]; rfl
    · next ne =>
      rw [joined]
      exact Text.length_eq_count ne (oneLine_stateFrom keeps ran)

/-- All three numbers behind a filter that makes one more word. -/
theorem run_wc_parted :
    run "axb\nc".toList [.tr ⟨['x'], [' '], false, false⟩] = .ok "a b\nc".toList ∧
      run "axb\nc".toList [.tr ⟨['x'], [' '], false, false⟩, .wc .default] =
        .ok "2\t3\t5".toList := by
  have done : run "axb\nc".toList [.tr ⟨['x'], [' '], false, false⟩] = .ok "a b\nc".toList := rfl
  obtain ⟨lines, left, counted, -, inLines⟩ := run_wc done
  obtain ⟨report, rfl, -, -, shown⟩ := counted .default
  have two : lines.length = 2 := by
    rw [inLines (by decide), if_neg]
    · rfl
    · rintro rfl
      cases left
  rw [two] at shown
  exact ⟨done, shown⟩

/-- A preview with one line feed, which a filter wrote into a line. By itself it has two lines,
behind that filter one. -/
theorem run_wc_inner_feed :
    run ['a'] [.tr ⟨['a'], ['\n'], false, false⟩] = .ok ['\n'] ∧
      linesLeft ['a'] [.tr ⟨['a'], ['\n'], false, false⟩] = .ok [['\n']] ∧
      run ['\n'] [.wc ⟨true, false, false⟩] = .ok (Text.ofNat (1 + List.count '\n' ['\n'])) ∧
      run ['a'] [.tr ⟨['a'], ['\n'], false, false⟩, .wc ⟨true, false, false⟩] ≠
        .ok (Text.ofNat (1 + List.count '\n' ['\n'])) := by
  refine ⟨rfl, rfl, rfl, fun two => ?_⟩
  have one : run ['a'] [.tr ⟨['a'], ['\n'], false, false⟩, .wc ⟨true, false, false⟩] = .ok ['1'] :=
    rfl
  exact absurd (Except.ok.inj (one.symm.trans two)) (by decide)

end Preview

end Pipework
