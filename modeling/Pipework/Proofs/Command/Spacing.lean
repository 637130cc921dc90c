import Pipework.Proofs.Shell.Reading
import Pipework.Proofs.Shell.Separators

/-!
Commands put together with bars and blanks.
-/

set_option autoImplicit false
set_option relaxedAutoImplicit false

namespace Pipework.Shell

/-! ## Bars

If the first one ends bare, the bar ends its last stage and nothing else changes: the stages of
the whole are those of the first command and those of the second (`splitStages_append_bar`), so
the whole is read as the first command and then the second (`parse_append_bar`).
-/

def bar : Text := " | ".toList

/-- A command behind a source of its own. -/
def behindSource (command : Text) : Text := 'x' :: (bar ++ command)

/-- The scan of a command ends outside quotes, and no backslash waits for another character. -/
def EndsBare (command : Text) : Prop := Scan.start.after (normalize command) = Scan.start

instance (command : Text) : Decidable (EndsBare command) :=
  inferInstanceAs (Decidable (Scan.start.after (normalize command) = Scan.start))

/-- The stages of a command that stand for filters. -/
def filterStages (command : Text) : List Text := (splitStages (normalize command)).drop 1

theorem parse_eq_filterStages (command : Text) :
    parse command = parseStages (filterStages command) := rfl

private theorem EndsBare.after_flatten {command : Text} (h : EndsBare command) :
    Scan.start.after (flatten command) = Scan.start := by
  obtain ⟨a, b, whole, ha, hb⟩ := Text.exists_trim (flatten command)
  have middle : Scan.start.after (Text.trim (flatten command)) = Scan.start := h
  rw [whole, Scan.after_append, Scan.after_append, Scan.after_blanks ha, middle,
    Scan.after_blanks hb]

private theorem flatten_append_bar (a b : Text) :
    flatten (a ++ bar ++ b) = flatten (a ++ [' ']) ++ '|' :: flatten (' ' :: b) := by
  have firm : isFirm '|' = true := rfl
  have shape : a ++ bar ++ b = a ++ [' '] ++ '|' :: ' ' :: b := by simp [bar]
  rw [shape, flatten_append_firm firm]

private theorem splitStages_flatten_append_bar {a : Text} (h : EndsBare a) (b : Text) :
    splitStages (flatten (a ++ bar ++ b)) =
      splitStages (flatten a) ++ splitStages (flatten (' ' :: b)) := by
  -- a continued line at the end of `a` swallows the blank of the joint, so the two sides may
  -- differ in blanks there; the trimming of the last stage takes these away
  obtain ⟨gap, blank, spaced⟩ := exists_flatten_append_space a
  have bare : Scan.start.after (flatten a ++ gap) = Scan.start := by
    rw [Scan.after_append, h.after_flatten, Scan.after_blanks blank]
  have front : splitStages (flatten a ++ gap) = splitStages (flatten a) :=
    splitStages_append_blanks blank (flatten a)
  calc splitStages (flatten (a ++ bar ++ b))
      = splitStages ((flatten a ++ gap) ++ '|' :: flatten (' ' :: b)) := by
        rw [flatten_append_bar, spaced]
    _ = splitStages (flatten a ++ gap) ++ splitStages (flatten (' ' :: b)) :=
        splitStages_append_cut bare _
    _ = splitStages (flatten a) ++ splitStages (flatten (' ' :: b)) := by rw [front]

private theorem filterStages_behindSource (b : Text) :
    filterStages (behindSource b) = splitStages (flatten (' ' :: b)) := by
  have source : EndsBare ['x'] := by decide
  have single : splitStages (flatten ['x']) = [['x']] := by decide
  have stages := splitStages_flatten_append_bar source b
  have shape : behindSource b = ['x'] ++ bar ++ b := rfl
  rw [filterStages, normalize, splitStages_trim, shape, stages, single]
  rfl

theorem splitStages_append_bar {a : Text} (h : EndsBare a) (b : Text) :
    splitStages (normalize (a ++ bar ++ b)) =
      splitStages (normalize a) ++ filterStages (behindSource b) := by
  rw [filterStages_behindSource, normalize, normalize, splitStages_trim, splitStages_trim]
  exact splitStages_flatten_append_bar h b

theorem filterStages_append_bar {a : Text} (h : EndsBare a) (b : Text) :
    filterStages (a ++ bar ++ b) = filterStages a ++ filterStages (behindSource b) := by
  have source : 1 ≤ (splitStages (normalize a)).length := by
    have parts := List.length_pos_iff.2 (splitBare_ne_nil (· == '|') Scan.start (normalize a))
    rw [splitStages, List.length_map]
    omega
  rw [filterStages, splitStages_append_bar h, List.drop_append_of_le_length source]
  rfl

/-- A command that ends bare, a bar and any text: the first command is read, then the text as if
it stood behind a source, and the first error ends the reading. The stages are those of the one
and then those of the other, and an error names the first of them that is no filter. -/
theorem parse_append_bar {a : Text} (h : EndsBare a) (b : Text) :
    parse (a ++ bar ++ b) =
        (match parse a, parse (behindSource b) with
        | .error e, _ => .error e
        | .ok _, .error e => .error e
        | .ok front, .ok back => .ok (front ++ back)) ∧
      splitStages (normalize (a ++ bar ++ b)) =
        splitStages (normalize a) ++ filterStages (behindSource b) ∧
      ∀ e, parse (a ++ bar ++ b) = .error e ↔
        ∃ front rest, filterStages a ++ filterStages (behindSource b) = front ++ e.stage :: rest ∧
          (∀ stage ∈ front, ∃ f, parseStage stage = .ok f) ∧
          parseStage e.stage = .error e.error := by
  have stages := filterStages_append_bar h b
  refine ⟨?_, splitStages_append_bar h b, fun e => ?_⟩
  · rw [parse_eq_filterStages, stages, parseStages_append, ← parse_eq_filterStages,
      ← parse_eq_filterStages]
    cases parse a with
    | error e => rfl
    | ok front => cases parse (behindSource b) <;> rfl
  · rw [parse_eq_filterStages, stages]
    exact parseStages_eq_error_iff

/-- A continued line and a quoted bar in front of the joint, a line feed behind it. -/
theorem parse_append_bar_continued :
    EndsBare "cat f | grep 'a|b' \\\n  ".toList ∧
      parse ("cat f | grep 'a|b' \\\n  ".toList ++ bar ++ "\n sort -r | uniq".toList) =
        .ok [.grep ⟨"a|b".toList, false, false, false⟩, .sort ⟨true⟩, .uniq] := by
  have bare : EndsBare "cat f | grep 'a|b' \\\n  ".toList := by decide
  have front : parse "cat f | grep 'a|b' \\\n  ".toList =
      .ok [.grep ⟨"a|b".toList, false, false, false⟩] := eq_ok_of_toOption (by decide +kernel)
  have back : parse (behindSource "\n sort -r | uniq".toList) = .ok [.sort ⟨true⟩, .uniq] :=
    eq_ok_of_toOption (by decide +kernel)
  have whole := (parse_append_bar bare "\n sort -r | uniq".toList).1
  rw [front, back] at whole
  exact ⟨bare, whole⟩

/-! ## Layouts

A stage is read by its words alone, so commands whose stages have the same words give the same
filters or fail for the same reason at the same stage. However its words and bars are separated, a
command has the stages and the words it was written from (`parse_spacing`).
-/

/-- A command is refused for a reason at a stage of its own number, the source being number zero:
the stages between are filters. -/
def FailsAt (command : Text) (number : Nat) (reason : StageError) : Prop :=
  ∃ front stage rest, filterStages command = front ++ stage :: rest ∧ number = front.length + 1 ∧
    (∀ other ∈ front, ∃ f, parseStage other = .ok f) ∧ parse command = .error ⟨stage, reason⟩

theorem exists_parseStage_factor :
    ∃ read : List Text → Except StageError Filter,
      ∀ stage, parseStage stage = (splitWords stage).bind read :=
  ⟨_, fun _ => rfl⟩

theorem map_parseStage_eq {a b : List Text} (h : a.map splitWords = b.map splitWords) :
    a.map parseStage = b.map parseStage := by
  obtain ⟨read, factor⟩ := exists_parseStage_factor
  have throughWords (stages : List Text) :
      stages.map parseStage = (stages.map splitWords).map (·.bind read) := by
    rw [List.map_map]
    exact List.map_congr_left fun stage _ => factor stage
  rw [throughWords, throughWords, h]

theorem parseStages_eq_ok_iff {stages : List Text} {filters : List Filter} :
    parseStages stages = .ok filters ↔ stages.map parseStage = filters.map .ok := by
  induction stages generalizing filters with
  | nil => cases filters <;> simp [parseStages]
  | cons stage stages ih =>
    rw [parseStages, List.map_cons]
    cases parseStage stage with
    | error e => cases filters <;> simp
    | ok f =>
      cases filters with
      | nil => cases parseStages stages <;> simp [Except.map]
      | cons g filters =>
        rw [List.map_cons, List.cons.injEq, ← ih]
        cases parseStages stages <;> simp [Except.map, and_comm]

theorem forall_parseStage_iff {stages : List Text} :
    (∀ stage ∈ stages, ∃ f, parseStage stage = .ok f) ↔
      ∃ filters : List Filter, stages.map parseStage = filters.map .ok := by
  induction stages with
  | nil => simp
  | cons stage stages ih =>
    rw [List.forall_mem_cons, ih]
    constructor
    · rintro ⟨⟨f, first⟩, filters, others⟩
      exact ⟨f :: filters, by rw [List.map_cons, List.map_cons, first, others]⟩
    · rintro ⟨filters, all⟩
      obtain ⟨f, others, rfl, first, rest⟩ := List.map_eq_cons_iff.1 all.symm
      exact ⟨⟨f, first.symm⟩, others, rest.symm⟩

theorem failsAt_iff {command : Text} {number : Nat} {reason : StageError} :
    FailsAt command number reason ↔
      ∃ (filters : List Filter) (rest : List (Except StageError Filter)),
        (filterStages command).map parseStage = filters.map .ok ++ .error reason :: rest ∧
        number = filters.length + 1 := by
  constructor
  · rintro ⟨front, stage, rest, stages, rfl, good, refused⟩
    obtain ⟨-, -, -, -, bad⟩ := parseStages_eq_error_iff.1 refused
    obtain ⟨filters, before⟩ := forall_parseStage_iff.1 good
    have count := congrArg List.length before
    rw [List.length_map, List.length_map] at count
    refine ⟨filters, rest.map parseStage, ?_, by rw [count]⟩
    rw [stages, List.map_append, List.map_cons, before, bad]
  · rintro ⟨filters, rest, outcomes, rfl⟩
    obtain ⟨front, behind, stages, before, after⟩ := List.map_eq_append_iff.1 outcomes
    obtain ⟨stage, others, rfl, bad, -⟩ := List.map_eq_cons_iff.1 after
    have count := congrArg List.length before
    rw [List.length_map, List.length_map] at count
    have good := forall_parseStage_iff.2 ⟨filters, before⟩
    refine ⟨front, stage, others, stages, by rw [count], good, ?_⟩
    exact parseStages_eq_error_iff.2 ⟨front, others, stages, good, bad⟩

theorem exists_failsAt {command : Text} {e : CommandError} (h : parse command = .error e) :
    ∃ number, FailsAt command number e.error := by
  obtain ⟨front, rest, stages, good, -⟩ := parseStages_eq_error_iff.1 h
  exact ⟨front.length + 1, front, e.stage, rest, stages, rfl, good, h⟩

theorem Piped.splitWords_eq {stages : List (List Text)} {command : Text}
    (h : Piped Separator stages command) (solid : ∀ words ∈ stages, ∀ word ∈ words, Solid word) :
    (splitStages (normalize command)).map splitWords = stages.map .ok := by
  rw [normalize, splitStages_trim]
  exact (h.onOneLine solid).splitWords_stages solid

/-- Two commands that write the same words of the same stages, with any separators, have these
stages and words. They give the same filters, or fail for the same reason at the same stage. -/
theorem parse_spacing {stages : List (List Text)}
    (solid : ∀ words ∈ stages, ∀ word ∈ words, Solid word) {a b : Text}
    (ha : Piped Separator stages a) (hb : Piped Separator stages b) :
    (splitStages (normalize a)).map splitWords = stages.map .ok ∧
      ((∃ filters, parse a = .ok filters) ∨ ∃ number reason, FailsAt a number reason) ∧
      (∀ filters, parse a = .ok filters ↔ parse b = .ok filters) ∧
      ∀ number reason, FailsAt a number reason ↔ FailsAt b number reason := by
  have same : (filterStages a).map parseStage = (filterStages b).map parseStage := by
    refine map_parseStage_eq ?_
    rw [filterStages, filterStages, List.map_drop, List.map_drop, ha.splitWords_eq solid,
      hb.splitWords_eq solid]
  refine ⟨ha.splitWords_eq solid, ?_, fun filters => ?_, fun number reason => ?_⟩
  · cases read : parse a with
    | ok filters => exact .inl ⟨filters, rfl⟩
    | error e =>
      obtain ⟨number, fails⟩ := exists_failsAt read
      exact .inr ⟨number, e.error, fails⟩
  · rw [parse_eq_filterStages, parse_eq_filterStages, parseStages_eq_ok_iff,
      parseStages_eq_ok_iff, same]
  · rw [failsAt_iff, failsAt_iff, same]

/-- A command without a blank too many, and the same one over lines with ends of both kinds. -/
theorem parse_spacing_continued :
    Piped Separator [["cat".toList], ["grep".toList, "'a |b'".toList]]
        "cat|grep 'a |b'".toList ∧
      Piped Separator [["cat".toList], ["grep".toList, "'a |b'".toList]]
        "cat \\\r\n |\ngrep\t\\\n'a |b'\r\n".toList ∧
      parse "cat \\\r\n |\ngrep\t\\\n'a |b'\r\n".toList =
        .ok [.grep ⟨"a |b".toList, false, false, false⟩] := by
  have solid : ∀ words ∈ [["cat".toList], ["grep".toList, "'a |b'".toList]],
      ∀ word ∈ words, Solid word := by
    simp only [List.forall_mem_cons, List.not_mem_nil, false_imp_iff, implies_true, and_true]
    refine ⟨?_, ?_, ?_⟩ <;> constructor <;> decide
  have tight : Piped Separator [["cat".toList], ["grep".toList, "'a |b'".toList]]
      "cat|grep 'a |b'".toList := by
    have text : "cat|grep 'a |b'".toList = [] ++ ("cat".toList ++ ([] ++ [])) ++
        '|' :: ([] ++ ("grep".toList ++ ([' '] ++ ("'a |b'".toList ++ ([] ++ []))))) := by decide
    rw [text]
    refine .bar .nil (.word .nil (by simp) .nil) (.last .nil ?_)
    exact .word (.blank rfl .nil) (by simp) (.word .nil (by simp) .nil)
  have loose : Piped Separator [["cat".toList], ["grep".toList, "'a |b'".toList]]
      "cat \\\r\n |\ngrep\t\\\n'a |b'\r\n".toList := by
    have text : "cat \\\r\n |\ngrep\t\\\n'a |b'\r\n".toList =
        [] ++ ("cat".toList ++ (" \\\r\n ".toList ++ [])) ++ '|' :: (['\n'] ++ ("grep".toList ++
          ("\t\\\n".toList ++ ("'a |b'".toList ++ ("\r\n".toList ++ []))))) := by decide
    rw [text]
    refine .bar .nil (.word ?_ (by simp) .nil) (.last (.blank rfl .nil) (.word ?_ (by simp) ?_))
    · exact .blank rfl (.continuedCarriage (.blank rfl .nil))
    · exact .blank rfl (.continued .nil)
    · exact .word (.blank rfl (.blank rfl .nil)) (by simp) .nil
  have read : parse "cat|grep 'a |b'".toList =
      .ok [.grep ⟨"a |b".toList, false, false, false⟩] := eq_ok_of_toOption (by decide +kernel)
  obtain ⟨-, -, same, -⟩ := parse_spacing solid tight loose
  exact ⟨tight, loose, (same _).1 read⟩

end Pipework.Shell
