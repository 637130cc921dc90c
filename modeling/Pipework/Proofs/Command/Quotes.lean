import Pipework.Pipeline
import Pipework.Proofs.Command.Spacing

/-!
Open quotes, escaped blanks, and the three scans of a command.
-/

set_option autoImplicit false
set_option relaxedAutoImplicit false

namespace Pipework

/-! ## Open quotes

An open quote takes in every bar behind it, so it ends up in the last stage. Behind a first bar
that stage is read and refused; in front of it the quote belongs to the source, which is passed
over, and the command is read as one without filters.
-/

def Pipeline.loadOrKeep (supply : IdSupply) (p : Pipeline) (command : Text) : Pipeline :=
  match p.load supply command with
  | .ok loaded => loaded
  | .error _ => p

theorem Pipeline.loadOrKeep_error (supply : IdSupply) (p : Pipeline) {command : Text}
    {e : Shell.CommandError} (h : Shell.parse command = .error e) :
    p.loadOrKeep supply command = p := by
  simp [loadOrKeep, load, h, Except.map]

theorem Pipeline.steps_loadOrKeep_nil (supply : IdSupply) (p : Pipeline) {command : Text}
    (h : Shell.parse command = .ok []) : (p.loadOrKeep supply command).steps = [] := by
  simp [loadOrKeep, load, h, Except.map, replace, Draft.settle]

namespace Shell

/-- The quotes of a command do not balance: the scan of its one line ends inside one. -/
def LeavesQuoteOpen (command : Text) : Prop :=
  (Scan.start.after (normalize command)).isOpen = true

/-- The source of a command ends somewhere: a bar of its one line stands bare. -/
def HasStages (command : Text) : Prop := Divides (· == '|') (normalize command)

private theorem exists_open_stage {command : Text} (hopen : LeavesQuoteOpen command)
    (hbar : HasStages command) :
    ∃ source middle last, splitStages (normalize command) = source :: (middle ++ [last]) ∧
      (Scan.start.after last).isOpen = true := by
  obtain ⟨front, last, parts, -, state⟩ :=
    exists_lastPart neutral_bar Scan.start (normalize command)
  rcases state with ⟨rfl, rfl⟩ | ⟨ne, state⟩
  · exact absurd hbar ((undivided_iff neutral_bar _).1 parts)
  · obtain ⟨source, middle, rfl⟩ := List.exists_cons_of_ne_nil ne
    refine ⟨Text.trim source, middle.map Text.trim, Text.trim last, ?_, ?_⟩
    · rw [splitStages, parts]
      simp
    · rw [Scan.isOpen_after_trim, state]
      exact hopen

/-- With a source of its own, a command with an open quote is refused: for the first stage that
is refused by itself, and otherwise for the quote in the last one. -/
private theorem parse_open {command : Text} (hopen : LeavesQuoteOpen command)
    (hbar : HasStages command) :
    ∃ source middle last, splitStages (normalize command) = source :: (middle ++ [last]) ∧
      parse command =
        (parseStages middle).bind fun _ => .error ⟨last, .unterminatedQuote⟩ := by
  obtain ⟨source, middle, last, stages, hlast⟩ := exists_open_stage hopen hbar
  refine ⟨source, middle, last, stages, ?_⟩
  rw [parse, stages, List.drop_one, List.tail_cons, parseStages_append]
  simp only [parseStages, parseStage_open hlast]
  rfl

private theorem parse_source_only {command : Text} (h : ¬ HasStages command) :
    parse command = .ok [] := by
  have whole := (undivided_iff neutral_bar (normalize command)).2 h
  rw [parse, whole.splitStages_eq]
  rfl

private theorem exists_error_of_parse_open {command : Text} (hopen : LeavesQuoteOpen command)
    (hbar : HasStages command) : ∃ e, parse command = .error e := by
  obtain ⟨source, middle, last, -, hparse⟩ := parse_open hopen hbar
  cases hmiddle : parseStages middle with
  | error e => exact ⟨e, by rw [hparse, hmiddle]; rfl⟩
  | ok filters => exact ⟨⟨last, .unterminatedQuote⟩, by rw [hparse, hmiddle]; rfl⟩

/-- A command that leaves a quote open is refused exactly when a bare bar stands in front of that
quote. Then the error is that of the first stage refused by itself, or the open quote of the last
stage, and a pipeline keeps its steps. Otherwise the quote opens in the source: the command is
read as one without filters, and loading it takes every step away. -/
theorem open_quote_refused_iff {command : Text} (hopen : LeavesQuoteOpen command) :
    ((∃ e, parse command = .error e) ↔ HasStages command) ∧
      (HasStages command →
        (∃ source middle last, splitStages (normalize command) = source :: (middle ++ [last]) ∧
          parse command =
            (parseStages middle).bind fun _ => .error ⟨last, .unterminatedQuote⟩) ∧
        ∀ supply p, Pipeline.loadOrKeep supply p command = p) ∧
      (¬ HasStages command →
        parse command = .ok [] ∧
        ∀ supply p, (Pipeline.loadOrKeep supply p command).steps = []) := by
  refine ⟨⟨?_, exists_error_of_parse_open hopen⟩, ?_, ?_⟩
  · rintro ⟨e, he⟩
    by_cases hbar : HasStages command
    · exact hbar
    · rw [parse_source_only hbar] at he
      cases he
  · intro hbar
    obtain ⟨e, he⟩ := exists_error_of_parse_open hopen hbar
    exact ⟨parse_open hopen hbar, fun supply p => p.loadOrKeep_error supply he⟩
  · intro hbar
    have hparse := parse_source_only hbar
    exact ⟨hparse, fun supply p => p.steps_loadOrKeep_nil supply hparse⟩

/-- A quote that opens behind a bar and takes in the next one. -/
theorem open_quote_behind_bar_refused :
    LeavesQuoteOpen "cat f | sort | grep \"a | uniq".toList ∧
      HasStages "cat f | sort | grep \"a | uniq".toList ∧
      ∃ e, parse "cat f | sort | grep \"a | uniq".toList = .error e := by
  have hopen : LeavesQuoteOpen "cat f | sort | grep \"a | uniq".toList := by
    unfold LeavesQuoteOpen
    decide
  have hbar : HasStages "cat f | sort | grep \"a | uniq".toList :=
    ⟨"cat f ".toList, '|', " sort | grep \"a | uniq".toList, by decide, rfl, by decide⟩
  exact ⟨hopen, hbar, (open_quote_refused_iff hopen).1.2 hbar⟩

/-- A quote that opens in the source: both filters are gone, and there is no error. -/
theorem open_quote_in_source_accepted :
    LeavesQuoteOpen "cat 'f.csv | sort | uniq".toList ∧
      parse "cat 'f.csv | sort | uniq".toList = .ok [] := by
  constructor
  · unfold LeavesQuoteOpen
    decide
  · rfl

/-! ## Trimming

The texts between the bare bars of a command make it up again (`join_stageTexts`), and its stages
are these texts without the blanks at their ends. A stage has the words of its text unless the
text ends in an escaped blank; then the last word loses that blank (`trimmed_stage_words_iff`).
-/

/-- The texts between the bare bars of a command. -/
def stageTexts (command : Text) : List Text := splitBare (· == '|') Scan.start command

theorem join_splitBare (sep : Char) (s : Scan) (t : Text) :
    Text.join [sep] (splitBare (· == sep) s t) = t := by
  fun_induction splitBare (· == sep) s t with
  | case1 s => exact Text.join_singleton [sep] []
  | case2 s c t cut ih =>
    obtain ⟨-, hc⟩ := Bool.and_eq_true_iff.1 cut
    obtain rfl : c = sep := by simpa using hc
    obtain ⟨part, parts, hparts⟩ := List.exists_cons_of_ne_nil (splitBare_ne_nil (· == c) s t)
    rw [hparts] at ih ⊢
    rw [Text.join_cons_cons, ih]
    rfl
  | case3 s c t whole ih =>
    rw [Text.join_growHead _ _ _ (splitBare_ne_nil _ _ _), ih]

theorem join_stageTexts (command : Text) : Text.join ['|'] (stageTexts command) = command :=
  join_splitBare '|' Scan.start command

theorem not_divides_of_mem_stageTexts {command text : Text} (h : text ∈ stageTexts command) :
    ¬ Divides (· == '|') text := by
  have cut := bareCut_splitBare neutral_bar Scan.start command
  exact (undivided_iff neutral_bar text).1 (cut.undivided text h)

/-- The stages of a command on one line are the texts between its bare bars, trimmed. A stage has
the same words as its text, or the same error, exactly if the text does not end in an escaped
blank. Where it does, the last word of the stage lacks this blank. -/
theorem trimmed_stage_words_iff {command : Text} (h : '\n' ∉ command) :
    splitStages (normalize command) = (stageTexts command).map Text.trim ∧
      Text.join ['|'] (stageTexts command) = command ∧
      ∀ text ∈ stageTexts command,
        ¬ Divides (· == '|') text ∧
          (splitWords (Text.trim text) = splitWords text ↔ ¬ EndsEscaped text) ∧
          (EndsEscaped text → ∃ front last c, Text.isBlank c = true ∧
            splitWords text = .ok (front ++ [last ++ [c]]) ∧
            splitWords (Text.trim text) = .ok (front ++ [last])) := by
  refine ⟨?_, join_stageTexts command, fun text htext => ⟨?_, splitWords_trim_iff, ?_⟩⟩
  · rw [normalize, splitStages_trim, flatten_oneLine h]
    rfl
  · exact not_divides_of_mem_stageTexts htext
  · exact exists_splitWords_trim

/-- A stage that ends in an escaped blank, and one with a quote that stays open. -/
theorem trimmed_stage_words_mixed :
    '\n' ∉ "cat f | cut -d 'a ' -f \\ | tr \"x ".toList ∧
      splitStages (normalize "cat f | cut -d 'a ' -f \\ | tr \"x ".toList) =
        ["cat f".toList, "cut -d 'a ' -f \\".toList, "tr \"x".toList] ∧
      EndsEscaped " cut -d 'a ' -f \\ ".toList ∧
      splitWords "cut -d 'a ' -f \\".toList ≠ splitWords " cut -d 'a ' -f \\ ".toList ∧
      ¬ EndsEscaped " tr \"x ".toList := by
  have oneLine : '\n' ∉ "cat f | cut -d 'a ' -f \\ | tr \"x ".toList := by decide
  obtain ⟨stages, -, words⟩ := trimmed_stage_words_iff oneLine
  have texts : stageTexts "cat f | cut -d 'a ' -f \\ | tr \"x ".toList =
      ["cat f ".toList, " cut -d 'a ' -f \\ ".toList, " tr \"x ".toList] := by decide
  rw [texts] at stages words
  have escaped : EndsEscaped " cut -d 'a ' -f \\ ".toList :=
    ⟨" cut -d 'a ' -f ".toList, ' ', [], rfl, by decide, rfl, Text.blank_nil⟩
  obtain ⟨-, cutWords, -⟩ := words " cut -d 'a ' -f \\ ".toList (by simp)
  obtain ⟨-, trWords, -⟩ := words " tr \"x ".toList (by simp)
  have unclosed : splitWords (Text.trim " tr \"x ".toList) = splitWords " tr \"x ".toList := by
    rw [splitWords_open (by decide), splitWords_open (by decide)]
  refine ⟨oneLine, stages.trans (by decide), escaped, fun same => ?_, trWords.1 unclosed⟩
  exact cutWords.1 same escaped

/-- The last blank of a stage is escaped, and the pattern is read without it. -/
theorem escaped_blank_lost :
    stageTexts "cat f | grep a\\ | sort".toList =
        ["cat f ".toList, " grep a\\ ".toList, " sort".toList] ∧
      splitWords " grep a\\ ".toList = .ok ["grep".toList, "a\\ ".toList] ∧
      unquote "a\\ ".toList = "a ".toList ∧
      splitWords (Text.trim " grep a\\ ".toList) = .ok ["grep".toList, "a\\".toList] ∧
      parse "cat f | grep a\\ | sort".toList =
        .ok [.grep ⟨"a\\".toList, false, false, false⟩, .sort ⟨false⟩] :=
  ⟨by decide, eq_ok_of_toOption (by decide), by decide, eq_ok_of_toOption (by decide),
    eq_ok_of_toOption (by decide +kernel)⟩

/-! ## Agreement

Cutting a command into stages, cutting a stage into words and taking the quoting off a word each
follow the quotes from the start of their own text. They agree all the same: only the last stage
can hold the quote that stays open, stages put together again are cut at the same bars
(`splitStages_join`), and a word is one word of the shell (`quote_scans_agree`).
-/

theorem after_trim_space {part : Text} (closed : (Scan.start.after part).isOpen = false) :
    Scan.start.after (Text.trim part ++ [' ']) = Scan.start := by
  have trimmed : (Scan.start.after (Text.trim part)).isOpen = false := by
    rw [Scan.isOpen_after_trim, closed]
  rw [Scan.after_append]
  rcases Scan.eq_start_or_escaped trimmed with bare | escaped
  · rw [bare]
    rfl
  · rw [escaped]
    rfl

/-- Stages with bars between them are cut into the same stages. -/
theorem splitStages_join {texts : List Text} {s : Scan}
    (h : BareCut (· == '|') Scan.start texts s) :
    splitStages (Text.join bar (texts.map Text.trim)) = texts.map Text.trim := by
  generalize start : Scan.start = s' at h
  induction h with
  | last whole =>
    subst start
    rw [List.map_singleton, Text.join_singleton, splitStages_trim, whole.splitStages_eq]
  | @cut _ _ part rest whole bare behind ih =>
    subst start
    have joint : Text.join bar ((part :: rest).map Text.trim) =
        Text.trim part ++ [' '] ++ '|' :: ([' '] ++ Text.join bar (rest.map Text.trim)) := by
      obtain ⟨next, others, rfl⟩ := List.exists_cons_of_ne_nil behind.ne_nil
      simp [Text.join_cons_cons, bar]
    have closed : (Scan.start.after part).isOpen = false := by
      rw [bare]
      rfl
    rw [joint, splitStages_append_cut (after_trim_space closed),
      splitStages_append_blanks Text.blank_space, splitStages_blanks_append Text.blank_space,
      splitStages_trim, whole.splitStages_eq, ih rfl]
    rfl

/-- The three readings of a command agree on its quotes. All stages but the last are split into
words, and the last one is refused for an open quote exactly if the scan of the command ends
inside one. The stages with bars between them are cut into the same stages. A word of a stage is
one word of the shell, whose quoting is taken off, but for two cases: it ends in a backslash that
escapes nothing, and is no word at all, or a number sign in front makes it a comment. -/
theorem quote_scans_agree (command : Text) :
    (∃ front last, splitStages command = front ++ [last] ∧
      (∀ stage ∈ front, ∃ words, splitWords stage = .ok words) ∧
      (splitWords last = .error .unterminatedQuote ↔
        (Scan.start.after command).isOpen = true)) ∧
      splitStages (Text.join bar (splitStages command)) = splitStages command ∧
      ∀ text words, splitWords text = .ok words → ∀ w ∈ words,
        (w.head? ≠ some '#' →
          (¬ EndsLoose w → ∃ value, Posix.words? w = some [value] ∧ unquote w = value) ∧
          (EndsLoose w → Posix.words? w = none)) ∧
        (w.head? = some '#' → '\n' ∉ w → Posix.words? w = some []) := by
  refine ⟨?_, splitStages_join (bareCut_splitBare neutral_bar Scan.start command), ?_⟩
  · obtain ⟨front, last, stages, closed, same⟩ := exists_lastStage command
    refine ⟨front, last, stages, fun stage hstage => ?_, ?_⟩
    · exact ⟨_, splitWords_closed (closed stage hstage)⟩
    · rw [splitWords_eq_error_iff, same]
  · intro text words read w hw
    have word := isWord_of_mem read hw
    refine ⟨fun sign => ⟨fun firm => ?_, (word.exists_words? sign).2⟩, fun sign oneLine => ?_⟩
    · obtain ⟨value, one⟩ := (word.exists_words? sign).1 firm
      exact ⟨value, one, unquote_of_words? one⟩
    · obtain ⟨rest, rfl⟩ := List.head?_eq_some_iff.1 sign
      exact Posix.words?_comment (List.ne_and_not_mem_of_not_mem_cons oneLine).2

/-- An escaped blank in front of a bar and a quote that stays open; quotes of both kinds around
number signs and backslashes, a comment, and a loose backslash. -/
theorem quote_scans_agree_mixed :
    splitStages "cat 'a|b' | grep a\\ | tr \"x | y".toList =
        ["cat 'a|b'".toList, "grep a\\".toList, "tr \"x | y".toList] ∧
      splitWords "tr \"x | y".toList = .error .unterminatedQuote ∧
      splitWords "a\\ '#'\"\\\"\" #'b c' d\\".toList =
        .ok ["a\\ '#'\"\\\"\"".toList, "#'b c'".toList, "d\\".toList] ∧
      (∃ value, Posix.words? "a\\ '#'\"\\\"\"".toList = some [value] ∧
        unquote "a\\ '#'\"\\\"\"".toList = value) ∧
      Posix.words? "#'b c'".toList = some [] ∧
      Posix.words? "d\\".toList = none := by
  have stages : splitStages "cat 'a|b' | grep a\\ | tr \"x | y".toList =
      ["cat 'a|b'".toList, "grep a\\".toList, "tr \"x | y".toList] := by decide
  have read : splitWords "a\\ '#'\"\\\"\" #'b c' d\\".toList =
      .ok ["a\\ '#'\"\\\"\"".toList, "#'b c'".toList, "d\\".toList] :=
    eq_ok_of_toOption (by decide)
  obtain ⟨⟨front, last, parts, -, refused⟩, -, words⟩ :=
    quote_scans_agree "cat 'a|b' | grep a\\ | tr \"x | y".toList
  have ends : front ++ [last] =
      ["cat 'a|b'".toList, "grep a\\".toList] ++ ["tr \"x | y".toList] := parts.symm.trans stages
  obtain rfl := List.singleton_inj.1 (List.append_inj_right' ends rfl)
  have word := words _ _ read
  have firm : ¬ EndsLoose "a\\ '#'\"\\\"\"".toList := fun loose =>
    absurd (Scan.after_eq_escaped_iff.2 loose) (by decide)
  refine ⟨stages, refused.2 (by decide), read, ?_, ?_, ?_⟩
  · exact ((word _ (by simp)).1 (by decide)).1 firm
  · exact (word _ (by simp)).2 rfl (by decide)
  · exact ((word _ (by simp)).1 (by decide)).2 ⟨['d'], rfl, by decide⟩

end Shell

end Pipework
