import Pipework.Proofs.Shell.Flattening
import Pipework.Proofs.Shell.Stages
import Pipework.Shell.Command

/-!
Reading the stages of a command, and what is never in them.
-/

set_option autoImplicit false
set_option relaxedAutoImplicit false

namespace Pipework.Shell

/-! ## Stages and kinds

The stages of a command are those of its text on one line, trimmed or not (`parse_eq`), and
reading stages is reading the first ones and then the others (`parseStages_append`).
-/

theorem parse_eq (command : Text) :
    parse command = parseStages ((splitStages (flatten command)).drop 1) := by
  rw [parse, normalize, splitStages_trim]

theorem eq_ok_of_toOption {ε α : Type} {x : Except ε α} {a : α}
    (h : x.toOption = some a) : x = .ok a := by
  cases x with
  | error e => cases h
  | ok b => exact congrArg Except.ok (Option.some.inj h)

theorem parseStages_append (a b : List Text) :
    parseStages (a ++ b) = do
      let front ← parseStages a
      let back ← parseStages b
      return front ++ back := by
  induction a with
  | nil => cases hb : parseStages b <;> simp [parseStages, hb, bind, Except.bind, pure, Except.pure]
  | cons stage a ih =>
    rw [List.cons_append, parseStages, parseStages, ih]
    cases parseStage stage with
    | error e => rfl
    | ok f =>
      cases parseStages a with
      | error e => rfl
      | ok front => cases parseStages b <;> rfl

theorem parseStages_map {α : Type} (write : α → Text) (read : α → Filter) (items : List α)
    (h : ∀ item ∈ items, parseStage (write item) = .ok (read item)) :
    parseStages (items.map write) = .ok (items.map read) := by
  induction items with
  | nil => rfl
  | cons item items ih =>
    have rest := ih fun other mem => h other (List.mem_cons_of_mem item mem)
    simp only [List.map_cons, parseStages, h item List.mem_cons_self, rest]
    rfl

theorem parseStages_eq_error_iff {stages : List Text} {e : CommandError} :
    parseStages stages = .error e ↔
      ∃ front rest, stages = front ++ e.stage :: rest ∧
        (∀ stage ∈ front, ∃ f, parseStage stage = .ok f) ∧
        parseStage e.stage = .error e.error := by
  constructor
  · intro h
    induction stages with
    | nil => cases h
    | cons stage stages ih =>
      rw [parseStages] at h
      cases read : parseStage stage with
      | error reason =>
        rw [read] at h
        cases h
        exact ⟨[], stages, rfl, by simp, read⟩
      | ok f =>
        have others : parseStages stages = .error e := by
          cases behind : parseStages stages with
          | error e' => simpa [read, behind, Except.map] using h
          | ok filters => simp [read, behind, Except.map] at h
        obtain ⟨front, rest, rfl, good, bad⟩ := ih others
        exact ⟨stage :: front, rest, rfl, List.forall_mem_cons.2 ⟨⟨f, read⟩, good⟩, bad⟩
  · rintro ⟨front, rest, rfl, good, bad⟩
    induction front with
    | nil => simp [parseStages, bad]
    | cons stage front ih =>
      obtain ⟨⟨f, read⟩, others⟩ := List.forall_mem_cons.1 good
      simp [parseStages, read, ih others, Except.map]

theorem parseStage_eq_ok_iff {stage : Text} {f : Filter} :
    parseStage stage = .ok f ↔
      ∃ word rest tool args, splitWords? stage = some (word :: rest) ∧
        Tool.ofName? (commandName word) = some tool ∧
        Arguments.scan tool.isSwitch rest = .ok args ∧ f = .ofArguments args tool := by
  constructor
  · intro h
    cases split : splitWords? stage with
    | none => simp [parseStage, splitWords, split, bind, Except.bind] at h
    | some words =>
      cases words with
      | nil => simp [parseStage, splitWords, split, bind, Except.bind, throw, throwThe,
          MonadExceptOf.throw] at h
      | cons word rest =>
        cases known : Tool.ofName? (commandName word) with
        | none => simp [parseStage, splitWords, split, known, bind, Except.bind, throw, throwThe,
            MonadExceptOf.throw] at h
        | some tool =>
          cases read : Arguments.scan tool.isSwitch rest with
          | error e => simp [parseStage, splitWords, split, known, read, bind, Except.bind] at h
          | ok args =>
            simp only [parseStage, splitWords, split, known, read, bind, Except.bind, pure,
              Except.pure, Except.ok.injEq] at h
            exact ⟨word, rest, tool, args, rfl, known, read, h.symm⟩
  · rintro ⟨word, rest, tool, args, split, known, read, rfl⟩
    simp [parseStage, splitWords, split, known, read, bind, Except.bind, pure, Except.pure]

theorem parseStage_open {stage : Text} (h : (Scan.start.after stage).isOpen = true) :
    parseStage stage = .error .unterminatedQuote := by
  simp [parseStage, splitWords, splitWords?, h, bind, Except.bind]

/-! ## One line

No step from a command to the option texts of its filters makes a line feed: cutting into stages
and words, taking quotes off, and sorting words into arguments.
-/

theorem exists_of_map_eq_ok {ε α β : Type} {f : α → β} {x : Except ε α} {b : β}
    (h : x.map f = .ok b) : ∃ a, x = .ok a ∧ f a = b := by
  cases x with
  | error e => cases h
  | ok a => exact ⟨a, rfl, Except.ok.inj h⟩

theorem splitBare_sublist (p : Char → Bool) (s : Scan) (t : Text) :
    (splitBare p s t).flatten.Sublist t := by
  fun_induction splitBare p s t with
  | case1 s => simp
  | case2 s c t cut ih =>
    rw [List.flatten_cons, List.nil_append]
    exact ih.cons c
  | case3 s c t cut ih =>
    rw [Text.flatten_growHead]
    exact ih.cons_cons c

theorem mem_of_mem_splitBare {p : Char → Bool} {s : Scan} {t part : Text} {c : Char}
    (hpart : part ∈ splitBare p s t) (hc : c ∈ part) : c ∈ t :=
  (splitBare_sublist p s t).subset (List.mem_flatten.2 ⟨part, hpart, hc⟩)

theorem mem_of_mem_splitStages {command stage : Text} {c : Char}
    (hstage : stage ∈ splitStages command) (hc : c ∈ stage) : c ∈ command := by
  obtain ⟨part, hpart, rfl⟩ := List.mem_map.1 hstage
  exact mem_of_mem_splitBare hpart (Text.mem_of_mem_trim hc)

theorem mem_of_mem_splitWords? {stage word : Text} {words : List Text} {c : Char}
    (split : splitWords? stage = some words) (hword : word ∈ words) (hc : c ∈ word) :
    c ∈ stage := by
  rw [splitWords?] at split
  split at split
  · cases split
  · cases split
    exact mem_of_mem_splitBare (List.mem_filter.1 hword).1 hc

namespace Posix

theorem newline_not_mem_plainStep {c : Char} (h : c ≠ '\n') : '\n' ∉ (plainStep c).2 := by
  rw [plainStep]
  split
  · simp
  · split
    · simp
    · split
      · simp
      · simpa using Ne.symm h

theorem newline_not_mem_doubleEscaped {c : Char} (h : c ≠ '\n') : '\n' ∉ doubleEscaped c := by
  rw [doubleEscaped]
  split
  · simpa using Ne.symm h
  · simpa [h] using Ne.symm h

theorem newline_not_mem_wordsFrom {mode : Mode} {word t : Text} {words : List Text}
    (read : wordsFrom mode word t = some words) (hword : '\n' ∉ word) (ht : '\n' ∉ t) :
    ∀ w ∈ words, '\n' ∉ w := by
  induction t generalizing mode word words with
  | nil =>
    cases mode with
    | plain =>
      cases read
      simpa using hword
    | gap | comment =>
      cases read
      simp
    | single | double | plainEscape | doubleEscape => cases read
  | cons c t ih =>
    obtain ⟨hc, rest⟩ : c ≠ '\n' ∧ '\n' ∉ t := by simpa [eq_comm] using ht
    have step := newline_not_mem_plainStep hc
    have grown : '\n' ∉ word ++ [c] := by simp [hword, Ne.symm hc]
    cases mode with
    | gap =>
      rw [wordsFrom] at read
      split at read
      · exact ih read (by simp) rest
      · split at read
        · exact ih read (by simp) rest
        · exact ih read step rest
    | comment =>
      rw [wordsFrom] at read
      exact ih read (by simp) rest
    | plain =>
      rw [wordsFrom] at read
      split at read
      · obtain ⟨others, hothers, rfl⟩ := Option.map_eq_some_iff.1 read
        have behind := ih hothers (by simp) rest
        simpa [hword] using behind
      · exact ih read (by simp [hword, step]) rest
    | single =>
      rw [wordsFrom] at read
      split at read
      · exact ih read hword rest
      · exact ih read grown rest
    | double =>
      rw [wordsFrom] at read
      split at read
      · exact ih read hword rest
      · split at read
        · exact ih read hword rest
        · exact ih read grown rest
    | plainEscape =>
      rw [wordsFrom, if_neg hc] at read
      exact ih read grown rest
    | doubleEscape =>
      rw [wordsFrom] at read
      exact ih read (by simp [hword, newline_not_mem_doubleEscaped hc]) rest

end Posix

theorem newline_not_mem_unquote {word : Text} (h : '\n' ∉ word) : '\n' ∉ unquote word := by
  rw [unquote]
  split
  · next value read =>
    exact Posix.newline_not_mem_wordsFrom read (by simp) h value (by simp)
  · exact fun mem => h (List.mem_filter.1 mem).1

private theorem mem_of_mem_dollarQuoted? {word inner : Text} {c : Char}
    (h : dollarQuoted? word = some inner) (hc : c ∈ inner) : c ∈ word := by
  unfold dollarQuoted? at h
  split at h
  · next rest =>
    split at h
    · cases h
      exact List.mem_cons_of_mem _ (List.mem_cons_of_mem _ ((List.dropLast_sublist rest).subset hc))
    · cases h
  · cases h

theorem newline_not_mem_unquoteValue {word : Text} (h : '\n' ∉ word) :
    '\n' ∉ unquoteValue word := by
  rw [unquoteValue]
  split
  · decide
  · split
    · next inner found =>
      intro mem
      rcases Text.mem_of_mem_replace mem with tab | mem
      · exact absurd tab (by decide)
      · exact h (mem_of_mem_dollarQuoted? found mem)
    · exact newline_not_mem_unquote h

namespace Arguments

structure OneLine (args : Arguments) : Prop where
  positional : ∀ p ∈ args.positionals, '\n' ∉ p.value
  flag : ∀ name t, (name, FlagArgument.value t) ∈ args.flags → '\n' ∉ t

theorem oneLine_empty : OneLine empty := ⟨by simp [empty], by simp [empty]⟩

theorem OneLine.addPositional {args : Arguments} (h : args.OneLine) {word : Text}
    (hword : '\n' ∉ word) : (args.addPositional word).OneLine := by
  constructor
  · simp only [Arguments.addPositional, List.forall_mem_cons]
    exact ⟨newline_not_mem_unquote hword, h.positional⟩
  · exact h.flag

theorem OneLine.addFlags {args : Arguments} (h : args.OneLine)
    {flags : List (Char × FlagArgument)} (hflags : ∀ name t, (name, .value t) ∈ flags → '\n' ∉ t) :
    (args.addFlags flags).OneLine := by
  refine ⟨h.positional, fun name t mem => ?_⟩
  rcases List.mem_append.1 mem with mem | mem
  · exact hflags name t mem
  · exact h.flag name t mem

theorem oneLine_cluster (isSwitch : Char → Bool) {next : Option Text}
    (h : ∀ word, next = some word → '\n' ∉ word) (names : Text) :
    ∀ name t, (name, .value t) ∈ (cluster isSwitch next names).1 → '\n' ∉ t := by
  induction names with
  | nil => simp [cluster]
  | cons name names ih =>
    intro other t mem
    rw [cluster] at mem
    split at mem
    · rcases List.mem_cons.1 mem with eq | mem
      · cases eq
      · exact ih other t mem
    · split at mem
      · next word found =>
        obtain ⟨hnext, -⟩ := Option.filter_eq_some_iff.1 found
        cases List.mem_singleton.1 mem
        exact newline_not_mem_unquoteValue (h word hnext)
      · exact ih other t mem

theorem oneLine_positionalOnly {words : List Text} (h : ∀ w ∈ words, '\n' ∉ w) :
    (positionalOnly words).OneLine := by
  induction words with
  | nil => exact oneLine_empty
  | cons word words ih =>
    have rest := ih fun w hw => h w (List.mem_cons_of_mem word hw)
    exact rest.addPositional (h word List.mem_cons_self)

theorem oneLine_scan {isSwitch : Char → Bool} {words : List Text} {args : Arguments}
    (read : scan isSwitch words = .ok args) (h : ∀ w ∈ words, '\n' ∉ w) : args.OneLine := by
  fun_induction scan isSwitch words generalizing args with
  | case1 =>
    cases read
    exact oneLine_empty
  | case2 word rest positional ih =>
    obtain ⟨behind, hbehind, rfl⟩ := exists_of_map_eq_ok read
    have others := ih hbehind fun w hw => h w (List.mem_cons_of_mem word hw)
    exact others.addPositional (h word List.mem_cons_self)
  | case3 rest hyphenated =>
    cases read
    exact oneLine_positionalOnly fun w hw => h w (List.mem_cons_of_mem _ hw)
  | case4 => cases read
  | case5 word =>
    cases read
    exact oneLine_empty.addFlags (oneLine_cluster isSwitch (by simp) word.tail)
  | case6 word _ _ _ next others flags taken collected ihTaken ihLeft =>
    obtain ⟨behind, hbehind, rfl⟩ := exists_of_map_eq_ok read
    have fromCluster : ∀ name t,
        (name, .value t) ∈ (cluster isSwitch (some next) word.tail).1 → '\n' ∉ t :=
      oneLine_cluster isSwitch (fun w hw => h w (by simp [Option.some.inj hw])) word.tail
    rw [collected] at fromCluster
    have rest : behind.OneLine := by
      split at hbehind
      · exact ihTaken hbehind fun w hw => h w (by simp [hw])
      · exact ihLeft hbehind fun w hw => h w (List.mem_cons_of_mem word hw)
    exact rest.addFlags fromCluster

theorem OneLine.value? {args : Arguments} (h : args.OneLine) {name : Char} {t : Text}
    (found : args.value? name = some t) : '\n' ∉ t := by
  unfold Arguments.value? at found
  split at found
  · next last =>
    cases found
    obtain ⟨⟨other, argument⟩, hfind, rfl⟩ := Option.map_eq_some_iff.1 last
    exact h.flag other t (List.mem_reverse.1 (List.mem_of_find?_eq_some hfind))
  · cases found

end Arguments

end Pipework.Shell
