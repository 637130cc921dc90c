import Pipework.Proofs.Command.RoundTrip
import Pipework.Proofs.Filter.PrintClause
import Pipework.Proofs.Preview.State
import Pipework.Proofs.Regex.Literal

/-!
Previews stage by stage, and the stage that has none.
-/

set_option autoImplicit false
set_option relaxedAutoImplicit false

namespace Pipework

/-! ## Stages

An error stays whatever filters follow. Otherwise the preview of the first filters, cut into lines
again, is what the next filter would have seen, and running the others over it ends in the same
preview (`run_staged`). Two things must be kept apart from this: filters that leave no line, since
the empty text has one, and filters that write a line feed into a line.
-/

theorem Filter.OneLine.keepsLines {f : Filter} (h : f.OneLine) : f.KeepsLines := by
  rw [oneLine_iff] at h
  cases f with
  | cut o => exact h.1
  | tr o => exact h.2
  | grep o | sort o | uniq | head o | tail o | wc o | awk o => trivial

namespace Preview

/-- The error of the first filters is the error of all. For filters that write no line feed into
a line, as those of any command, the preview has exactly the lines they leave, if any, and the
other filters go on from the preview as from the lines. -/
theorem run_staged (raw : Text) (a : List Filter) :
    (∀ e, run raw a = .error e → ∀ b, run raw (a ++ b) = .error e) ∧
      ((∀ f ∈ a, f.KeepsLines) → ∀ text, run raw a = .ok text →
        ∃ lines, linesLeft raw a = .ok lines ∧
          (lines ≠ [] → Text.lines text = lines ∧ ∀ b, run raw (a ++ b) = run text b)) ∧
      ∀ command, Shell.parse command = .ok a → ∀ f ∈ a, f.KeepsLines := by
  refine ⟨?_, ?_, ?_⟩
  · intro e failed b
    rw [run, runFrom_eq_stateFrom] at failed
    rw [run, runFrom_append]
    cases ran : stateFrom (Text.lines raw) raw a with
    | ok state => simp [ran, Except.map] at failed
    | error e' =>
      rw [ran] at failed
      cases failed
      rfl
  · intro keeps text done
    obtain ⟨lines, ran⟩ := run_eq_ok_iff.1 done
    refine ⟨lines, by rw [linesLeft, ran]; rfl, fun ne => ?_⟩
    have joined : text = Text.join ['\n'] lines := text_eq_join ran
    have again : Text.lines text = lines := by
      rw [joined]
      exact Text.lines_join ne (oneLine_stateFrom keeps ran)
    refine ⟨again, fun b => ?_⟩
    rw [run, runFrom_append, ran, run, again]
    rfl
  · intro command read f hf
    exact (Shell.oneLine_of_parse read f hf).keepsLines

/-- The filters of a command, and then any others; and a program of `awk` that is not run,
whatever follows. -/
theorem run_staged_last_field :
    Shell.parse "cat f | cut -d , -f 2 | tr a b".toList =
        .ok [.cut ⟨[','], ['2']⟩, .tr ⟨['a'], ['b'], false, false⟩] ∧
      (∀ b, run "p,a\nq,".toList ([.cut ⟨[','], ['2']⟩, .tr ⟨['a'], ['b'], false, false⟩] ++ b) =
        run "b\n".toList b) ∧
      ∀ b, run ['p'] ([.awk ⟨[], "length".toList⟩] ++ b) = .error (.unavailable .awk) := by
  have read : Shell.parse "cat f | cut -d , -f 2 | tr a b".toList =
      .ok [.cut ⟨[','], ['2']⟩, .tr ⟨['a'], ['b'], false, false⟩] :=
    Shell.eq_ok_of_toOption (by decide +kernel)
  refine ⟨read, ?_, (run_staged _ _).1 _ rfl⟩
  have done : run "p,a\nq,".toList [.cut ⟨[','], ['2']⟩, .tr ⟨['a'], ['b'], false, false⟩] =
      .ok "b\n".toList := rfl
  obtain ⟨-, staged, kept⟩ := run_staged "p,a\nq,".toList
    [.cut ⟨[','], ['2']⟩, .tr ⟨['a'], ['b'], false, false⟩]
  obtain ⟨lines, left, again⟩ := staged (kept _ read) _ done
  refine (again ?_).2
  rintro rfl
  cases left

end Preview

/-! ## Refusal

Whether a filter can be run is settled by its options: a pattern of `grep` that does not compile,
or a program of `awk` that is no print clause, is refused whatever lines there are, and every other
filter makes lines of any lines. So a run fails for all texts or for none, and the first filter that
is refused decides the error (`run_ok_or_refused`). The digits of a print clause may be of any
script here: `Awk.PrintClause`, not `Awk.PlainClause`, is what the preview goes by.
-/

/-- A filter that no lines can be run through, and the error that a run ends with there. -/
inductive Filter.Refused : Filter → PreviewError → Prop
  | pattern {o : Grep} {e : Regex.CompileError} :
      Regex.compile o.ignoreCase o.source = .error e →
        Refused (.grep o) (.failed .grep e.message)
  | program {o : Awk} :
      (∀ numerals, ¬ Awk.PrintClause numerals o.effectiveProgram) →
        Refused (.awk o) (.unavailable .awk)

namespace Awk

theorem print?_eq_none_iff {o : Awk} {lines : List Text} :
    o.print? lines = none ↔ ∀ numerals, ¬ PrintClause numerals o.effectiveProgram := by
  rw [print?, Option.map_eq_none_iff, Option.eq_none_iff_forall_ne_some]
  constructor
  · intro refused numerals clause
    exact refused _ clause.printFields?_eq
  · intro refused fields read
    obtain ⟨numerals, clause, -⟩ := exists_printClause_of_printFields? read
    exact refused numerals clause

end Awk

namespace Filter

theorem Refused.apply_eq {f : Filter} {e : PreviewError} (h : f.Refused e) (lines : List Text)
    (text : Text) : ∃ cause, f.apply lines text = .error cause ∧ .ofFilter f.tool cause = e := by
  cases h with
  | @pattern o e failed =>
    refine ⟨.pattern e, ?_, rfl⟩
    rw [apply, Grep.apply, Grep.compile_eq_error_iff.2 failed]
    rfl
  | @program o refused =>
    refine ⟨.unavailable, ?_, rfl⟩
    rw [apply, Awk.print?_eq_none_iff.2 refused]

theorem exists_apply_eq_ok {f : Filter} (h : ∀ e, ¬ f.Refused e) (lines : List Text)
    (text : Text) : ∃ next, f.apply lines text = .ok next := by
  cases f with
  | grep o =>
    cases compiled : o.compile with
    | error e => exact absurd (.pattern (Grep.compile_eq_error_iff.1 compiled)) (h _)
    | ok p => exact ⟨_, by rw [apply, Grep.apply, compiled]; rfl⟩
  | awk o =>
    cases printed : o.print? lines with
    | none => exact absurd (.program (Awk.print?_eq_none_iff.1 printed)) (h _)
    | some next => exact ⟨next, by rw [apply, printed]⟩
  | cut o | sort o | uniq | head o | tail o | tr o | wc o => exact ⟨_, rfl⟩

theorem none_refused_or_first (s : List Filter) :
    (∀ f ∈ s, ∀ e, ¬ f.Refused e) ∨
      ∃ a f b e, s = a ++ f :: b ∧ (∀ g ∈ a, ∀ e', ¬ g.Refused e') ∧ f.Refused e := by
  induction s with
  | nil => exact .inl (by simp)
  | cons f s ih =>
    by_cases refused : ∃ e, f.Refused e
    · obtain ⟨e, he⟩ := refused
      exact .inr ⟨[], f, s, e, rfl, by simp, he⟩
    · have sound : ∀ e, ¬ f.Refused e := not_exists.1 refused
      rcases ih with none | ⟨a, g, b, e, rfl, before, he⟩
      · exact .inl (List.forall_mem_cons.2 ⟨sound, none⟩)
      · exact .inr ⟨f :: a, g, b, e, rfl, List.forall_mem_cons.2 ⟨sound, before⟩, he⟩

end Filter

namespace Preview

theorem runFrom_refused {a : List Filter} (sound : ∀ g ∈ a, ∀ e, ¬ g.Refused e) {f : Filter}
    {e : PreviewError} (refused : f.Refused e) (b : List Filter) (lines : List Text)
    (text : Text) : runFrom lines text (a ++ f :: b) = .error e := by
  induction a generalizing lines text with
  | nil =>
    obtain ⟨cause, made, rfl⟩ := refused.apply_eq lines text
    rw [List.nil_append, runFrom, made]
  | cons g a ih =>
    obtain ⟨first, others⟩ := List.forall_mem_cons.1 sound
    obtain ⟨next, made⟩ := Filter.exists_apply_eq_ok first lines text
    rw [List.cons_append, runFrom, made]
    exact ih others next (Text.join ['\n'] next)

theorem exists_runFrom_eq_ok {s : List Filter} (sound : ∀ f ∈ s, ∀ e, ¬ f.Refused e)
    (lines : List Text) (text : Text) : ∃ shown, runFrom lines text s = .ok shown := by
  induction s generalizing lines text with
  | nil => exact ⟨text, rfl⟩
  | cons f s ih =>
    obtain ⟨first, others⟩ := List.forall_mem_cons.1 sound
    obtain ⟨next, made⟩ := Filter.exists_apply_eq_ok first lines text
    rw [runFrom, made]
    exact ih others next (Text.join ['\n'] next)

/-- Filters of which none is refused have a preview of every text. Otherwise the first one that is
refused decides the error, for every text and whatever filters are behind it. -/
theorem run_ok_or_refused (s : List Filter) :
    ((∀ f ∈ s, ∀ e, ¬ f.Refused e) ∧ ∀ raw, ∃ text, run raw s = .ok text) ∨
      ∃ a f b e, s = a ++ f :: b ∧ (∀ g ∈ a, ∀ e', ¬ g.Refused e') ∧ f.Refused e ∧
        (∀ raw, run raw s = .error e) ∧ ∀ b' raw, run raw (a ++ f :: b') = .error e := by
  rcases Filter.none_refused_or_first s with sound | ⟨a, f, b, e, rfl, before, refused⟩
  · exact .inl ⟨sound, fun raw => exists_runFrom_eq_ok sound (Text.lines raw) raw⟩
  · have ends (b' : List Filter) (raw : Text) : run raw (a ++ f :: b') = .error e :=
      runFrom_refused before refused b' (Text.lines raw) raw
    exact .inr ⟨a, f, b, e, rfl, before, refused, ends b, ends⟩

example (raw : Text) (rest : List Filter) :
    run raw ([.uniq, .awk ⟨[], "length".toList⟩] ++ rest) = .error (.unavailable .awk) := rfl

end Preview

end Pipework
