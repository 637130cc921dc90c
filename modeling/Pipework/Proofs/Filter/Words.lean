import Mathlib.Data.List.Forall2
import Pipework.Proofs.Filter.Effective
import Pipework.Proofs.Shell.Arguments
import Pipework.Proofs.Shell.Reading
import Pipework.Proofs.Shell.Spelling

/-!
The command of a filter word by word: as it is written, what stands where, and how it is read.
-/

set_option autoImplicit false
set_option relaxedAutoImplicit false

namespace Pipework

/-! ## Words

A filter is written as the name of its tool, its flags and its option texts (`render_eq_spell`),
and only plain words go without quotes (`words_proper`).
-/

namespace Shell.Word

def flag (name : Char) : Word := bare ['-', name]

def flagIf (on : Bool) (name : Char) : List Word := if on then [flag name] else []

@[simp] theorem written_flag (name : Char) : (flag name).written = ['-', name] := rfl

@[simp] theorem spelled_flagIf (on : Bool) (name : Char) :
    ((flagIf on name).flatMap fun w => ' ' :: w.written) =
      if on then [' ', '-', name] else [] := by
  cases on <;> rfl

theorem proper_flag {name : Char} (h : isPlain name = true) : (flag name).Proper := by
  refine ⟨List.cons_ne_nil _ _, ?_⟩
  simp only [List.forall_mem_cons]
  exact ⟨rfl, h, by simp⟩

theorem proper_flagIf {on : Bool} {name : Char} (h : isPlain name = true) :
    ∀ w ∈ flagIf on name, w.Proper := by
  intro w hw
  cases on with
  | false => cases hw
  | true =>
    obtain rfl := List.mem_singleton.1 hw
    exact proper_flag h

theorem proper_number (n : Nat) : (bare (Text.ofNat n)).Proper := by
  refine ⟨Text.ofNat_ne_nil n, ?_⟩
  intro c hc
  have blank := Text.isBlank_of_isDigit (Text.isDigit_of_mem_ofNat hc)
  have apart (d : Char) (hd : d.isDigit = false) : c ≠ d := Text.ne_of_mem_ofNat hc hd
  simp [isPlain, blank, apart '\'' rfl, apart '\x22' rfl, apart '\\' rfl, apart '|' rfl,
    apart '#' rfl]

theorem proper_toolName (tool : Tool) : (bare tool.name).Proper := by
  have plain : tool.name.all isPlain = true := by cases tool <;> decide
  exact ⟨by cases tool <;> decide, List.all_eq_true.1 plain⟩

def delimiter (t : Text) : Word := if isTab t then tab else quoted t

theorem proper_delimiter (t : Text) : (delimiter t).Proper := by
  unfold delimiter
  split <;> trivial

@[simp] theorem written_delimiter (t : Text) : (delimiter t).written = quoteDelimiter t := by
  unfold delimiter quoteDelimiter
  split <;> rfl

end Shell.Word

namespace Filter

open Shell (Word)

def arguments : Filter → List Word
  | .cut o => [.flag 'd', .delimiter o.separator, .flag 'f', .quoted o.fields]
  | .grep o =>
    Word.flagIf o.ignoreCase 'i' ++ Word.flagIf o.inverted 'v' ++ Word.flagIf o.fixed 'F' ++
      Word.flagIf (Shell.isHyphenated o.pattern) 'e' ++ [.quoted o.pattern]
  | .sort o => Word.flagIf o.reversed 'r'
  | .uniq => []
  | .head o => [.flag 'n', .bare (Text.ofNat o.count)]
  | .tail o => [.flag 'n', .bare (Text.ofNat o.count)]
  | .tr o =>
    Word.flagIf o.delete 'd' ++ Word.flagIf o.squeeze 's' ++ .quoted o.set1 ::
      if o.writesSet2 then [.quoted o.set2] else []
  | .wc o => Word.flagIf o.lines 'l' ++ Word.flagIf o.words 'w' ++ Word.flagIf o.chars 'c'
  | .awk o =>
    (if o.separator.isEmpty then [] else [.flag 'F', .delimiter o.separator]) ++
      [.quoted o.effectiveProgram]

def words (f : Filter) : List Word := .bare f.tool.name :: f.arguments

theorem render_eq_spell (f : Filter) : f.render = Word.spell f.words := by
  cases f with
  | cut o => simp [render, Cut.render, words, arguments, Word.spell, tool]
  | grep o => simp [render, Grep.render, words, arguments, Word.spell, tool]
  | sort o => simp [render, LineSort.render, words, arguments, Word.spell, tool]
  | uniq => rfl
  | head o => simp [render, LineCount.render, words, arguments, Word.spell, tool]
  | tail o => simp [render, LineCount.render, words, arguments, Word.spell, tool]
  | tr o =>
    by_cases second : o.writesSet2 = true <;>
      simp [render, Tr.render, words, arguments, Word.spell, tool, second]
  | wc o => simp [render, Wc.render, words, arguments, Word.spell, tool]
  | awk o =>
    by_cases empty : o.separator = [] <;>
      simp [render, Awk.render, words, arguments, Word.spell, tool, empty]

theorem words_proper (f : Filter) : ∀ w ∈ f.words, w.Proper := by
  have behind : ∀ w ∈ f.arguments, w.Proper := by
    cases f with
    | cut o =>
      simp only [arguments, List.forall_mem_cons]
      exact ⟨Word.proper_flag rfl, Word.proper_delimiter _, Word.proper_flag rfl, trivial, by simp⟩
    | grep o =>
      simp only [arguments, List.forall_mem_append, List.forall_mem_singleton]
      exact ⟨⟨⟨⟨Word.proper_flagIf rfl, Word.proper_flagIf rfl⟩, Word.proper_flagIf rfl⟩,
        Word.proper_flagIf rfl⟩, trivial⟩
    | sort o => exact Word.proper_flagIf rfl
    | uniq => simp [arguments]
    | head o =>
      simp only [arguments, List.forall_mem_cons]
      exact ⟨Word.proper_flag rfl, Word.proper_number _, by simp⟩
    | tail o =>
      simp only [arguments, List.forall_mem_cons]
      exact ⟨Word.proper_flag rfl, Word.proper_number _, by simp⟩
    | tr o =>
      simp only [arguments, List.forall_mem_append, List.forall_mem_cons]
      refine ⟨⟨Word.proper_flagIf rfl, Word.proper_flagIf rfl⟩, trivial, ?_⟩
      split <;> simp [Word.Proper]
    | wc o =>
      simp only [arguments, List.forall_mem_append]
      exact ⟨⟨Word.proper_flagIf rfl, Word.proper_flagIf rfl⟩, Word.proper_flagIf rfl⟩
    | awk o =>
      simp only [arguments, List.forall_mem_append, List.forall_mem_singleton]
      refine ⟨?_, trivial⟩
      split
      · simp
      · simp only [List.forall_mem_cons]
        exact ⟨Word.proper_flag rfl, Word.proper_delimiter _, by simp⟩
  intro w hw
  rcases List.mem_cons.1 hw with rfl | hw
  · exact Word.proper_toolName f.tool
  · exact behind w hw

theorem words_map_proper (f : Filter) (change : Text → Text) :
    ∀ w ∈ f.words.map (Word.map change), w.Proper := by
  intro w hw
  obtain ⟨v, hv, rfl⟩ := List.mem_map.1 hw
  exact (f.words_proper v hv).map change

end Filter

/-! ## Places

A place of a command is a name, a flag, a count or an option text, told without any quoting. The
words of a filter fill its places one by one, and the word of a text reads as exactly that text
(`exists_words`). Where the places are is decided by the tool, its flags and three marks of the
option texts (`layout_eq_iff`).
-/

/-- What a word of a command is there for. -/
inductive Place
  | tool (t : Tool)
  | flag (name : Char)
  | count (n : Nat)
  | text (t : Text)
  deriving DecidableEq, Repr

namespace Place

/-- A name, a flag and a count are written as they are; a text is what its word reads as. -/
def FilledBy : Place → Text → Prop
  | tool t, word => word = t.name
  | flag name, word => word = ['-', name]
  | count n, word => word = Text.ofNat n
  | text t, word => Shell.unquoteValue word = t

def flagIf (on : Bool) (name : Char) : List Place := if on then [flag name] else []

def vacate : Place → Place
  | count _ => count 0
  | text _ => text []
  | p => p

end Place

namespace Filter

open Shell (Word)

def argumentPlaces : Filter → List Place
  | .cut o =>
    [.flag 'd', .text (if o.delimiter = [] then [','] else Shell.normalTab o.delimiter),
      .flag 'f', .text o.fields]
  | .grep o =>
    Place.flagIf o.ignoreCase 'i' ++ Place.flagIf o.inverted 'v' ++ Place.flagIf o.fixed 'F' ++
      Place.flagIf (Shell.isHyphenated o.pattern) 'e' ++ [.text o.pattern]
  | .sort o => Place.flagIf o.reversed 'r'
  | .uniq => []
  | .head o => [.flag 'n', .count o.count]
  | .tail o => [.flag 'n', .count o.count]
  | .tr o =>
    Place.flagIf o.delete 'd' ++ Place.flagIf o.squeeze 's' ++ .text o.set1 ::
      match o.delete, o.squeeze with
      | true, false => []
      | false, true => if o.set2.isEmpty then [] else [.text o.set2]
      | _, _ => [.text o.set2]
  | .wc o => Place.flagIf o.lines 'l' ++ Place.flagIf o.words 'w' ++ Place.flagIf o.chars 'c'
  | .awk o =>
    (if o.separator = [] then [] else [.flag 'F', .text (Shell.normalTab o.separator)]) ++
      [.text (if Text.isBlankText o.program then Awk.usualProgram else o.program)]

def places (f : Filter) : List Place := .tool f.tool :: f.argumentPlaces

/-- The places of a command without counts and texts. -/
def layout (f : Filter) : List Place := f.places.map Place.vacate

def flags (f : Filter) : List Bool :=
  f.fields.filterMap fun field =>
    match field.2 with
    | .flag b => some b
    | .text _ => none

/-- What of the option texts shows in the layout: a separator of `awk` that is empty, a second
set that is empty while `tr` only squeezes, and a hyphen in front of a pattern. -/
def mark : Filter → Bool
  | .awk o => o.separator.isEmpty
  | .tr o => o.squeeze && !o.delete && o.set2.isEmpty
  | .grep o => Shell.isHyphenated o.pattern
  | _ => false

private theorem forall₂_flagIf (on : Bool) (name : Char) :
    List.Forall₂ Place.FilledBy (Place.flagIf on name)
      ((Word.flagIf on name).map Word.written) := by
  cases on with
  | false => exact .nil
  | true => exact .cons rfl .nil

private theorem filledBy_quote (t : Text) : (Place.text t).FilledBy (Shell.quote t) :=
  Shell.unquoteValue_quote t

private theorem filledBy_delimiter (t : Text) :
    (Place.text (Shell.normalTab t)).FilledBy (Word.delimiter t).written := by
  have value : (Word.delimiter t).value = Shell.normalTab t := by
    unfold Word.delimiter Shell.normalTab
    split <;> rfl
  rw [← value]
  exact (Word.proper_delimiter t).unquoteValue_written

private theorem forall₂_argumentPlaces (f : Filter) :
    List.Forall₂ Place.FilledBy f.argumentPlaces (f.arguments.map Word.written) := by
  cases f with
  | cut o =>
    have delimiter := filledBy_delimiter o.separator
    rw [Cut.normalTab_separator] at delimiter
    simp only [argumentPlaces, Cut.effective_delimiter]
    exact .cons rfl (.cons delimiter (.cons rfl (.cons (filledBy_quote o.fields) .nil)))
  | grep o =>
    simp only [argumentPlaces, arguments, List.map_append]
    have switches := List.rel_append (List.rel_append (forall₂_flagIf o.ignoreCase 'i')
      (forall₂_flagIf o.inverted 'v')) (forall₂_flagIf o.fixed 'F')
    exact List.rel_append
      (List.rel_append switches (forall₂_flagIf (Shell.isHyphenated o.pattern) 'e'))
      (.cons (filledBy_quote o.pattern) .nil)
  | sort o => exact forall₂_flagIf o.reversed 'r'
  | uniq => exact .nil
  | head o => exact .cons rfl (.cons rfl .nil)
  | tail o => exact .cons rfl (.cons rfl .nil)
  | tr o =>
    -- the flags decide whether the second set is written, and its text only where `tr` squeezes
    -- and does not delete
    have second : List.Forall₂ Place.FilledBy
        (match o.delete, o.squeeze with
          | true, false => []
          | false, true => if o.set2.isEmpty then [] else [.text o.set2]
          | _, _ => [.text o.set2])
        ((if o.writesSet2 then [Word.quoted o.set2] else []).map Word.written) := by
      have set2 := filledBy_quote o.set2
      cases delete : o.delete <;> cases squeeze : o.squeeze <;> cases empty : o.set2.isEmpty <;>
        simp [Tr.writesSet2, delete, squeeze, empty, set2]
    simp only [argumentPlaces, arguments, List.map_append, List.map_cons]
    exact List.rel_append
      (List.rel_append (forall₂_flagIf o.delete 'd') (forall₂_flagIf o.squeeze 's'))
      (.cons (filledBy_quote o.set1) second)
  | wc o =>
    simp only [argumentPlaces, arguments, List.map_append]
    exact List.rel_append (List.rel_append (forall₂_flagIf o.lines 'l')
      (forall₂_flagIf o.words 'w')) (forall₂_flagIf o.chars 'c')
  | awk o =>
    have program : List.Forall₂ Place.FilledBy
        [.text (if Text.isBlankText o.program then Awk.usualProgram else o.program)]
        ([Word.quoted o.effectiveProgram].map Word.written) :=
      .cons (filledBy_quote o.effectiveProgram) .nil
    simp only [argumentPlaces, arguments, List.map_append]
    refine List.rel_append ?_ program
    by_cases empty : o.separator = []
    · simp [empty]
    · simp only [empty, if_false, List.isEmpty_iff]
      exact .cons rfl (.cons (filledBy_delimiter o.separator) .nil)

/-- The command of a filter is split into as many words as it has places, and each word fills its
place, whatever the option texts hold. -/
theorem exists_words (f : Filter) :
    ∃ words, Shell.splitWords f.render = .ok words ∧
      List.Forall₂ Place.FilledBy f.places words := by
  refine ⟨f.words.map Word.written, ?_, .cons rfl (forall₂_argumentPlaces f)⟩
  rw [render_eq_spell, Shell.splitWords, Word.splitWords?_spell f.words_proper]

private theorem vacate_flagIf (on : Bool) (name : Char) :
    (Place.flagIf on name).map Place.vacate = Place.flagIf on name := by
  cases on <;> rfl

private theorem flagIf_inj {on on' : Bool} {name : Char} :
    Place.flagIf on name = Place.flagIf on' name ↔ on = on' := by
  cases on <;> cases on' <;> simp [Place.flagIf]

/-- Filters of one tool with the same flags have the same places exactly when their option texts
bear the same mark. -/
theorem layout_eq_iff {f g : Filter} (tool : f.tool = g.tool) (flags : f.flags = g.flags) :
    f.layout = g.layout ↔ f.mark = g.mark := by
  match f, g, tool, flags with
  | .cut o, .cut p, _, _ => simp [layout, places, argumentPlaces, Place.vacate, mark, Filter.tool]
  | .grep o, .grep p, _, flags =>
    obtain ⟨ignoreCase, inverted, fixed⟩ : o.ignoreCase = p.ignoreCase ∧ o.inverted = p.inverted ∧
        o.fixed = p.fixed := by simpa [Filter.flags, fields] using flags
    simp [layout, places, argumentPlaces, Place.vacate, mark, Filter.tool, vacate_flagIf,
      flagIf_inj, ignoreCase, inverted, fixed]
  | .sort o, .sort p, _, flags =>
    have reversed : o.reversed = p.reversed := by simpa [Filter.flags, fields] using flags
    simp [layout, places, argumentPlaces, mark, Filter.tool, reversed]
  | .uniq, .uniq, _, _ => simp
  | .head o, .head p, _, _ => simp [layout, places, argumentPlaces, Place.vacate, mark, Filter.tool]
  | .tail o, .tail p, _, _ => simp [layout, places, argumentPlaces, Place.vacate, mark, Filter.tool]
  | .tr o, .tr p, _, flags =>
    obtain ⟨delete, squeeze⟩ : o.delete = p.delete ∧ o.squeeze = p.squeeze := by
      simpa [Filter.flags, fields] using flags
    cases hd : p.delete <;> cases hs : p.squeeze <;> cases ho : o.set2.isEmpty <;>
      cases hp : p.set2.isEmpty <;>
      simp [layout, places, argumentPlaces, Place.vacate, mark, Filter.tool, delete, squeeze, hd,
        hs, ho, hp]
  | .wc o, .wc p, _, flags =>
    obtain ⟨lines, words, chars⟩ : o.lines = p.lines ∧ o.words = p.words ∧ o.chars = p.chars := by
      simpa [Filter.flags, fields] using flags
    simp [layout, places, argumentPlaces, mark, Filter.tool, lines, words, chars]
  | .awk o, .awk p, _, _ =>
    cases ho : o.separator <;> cases hp : p.separator <;>
      simp [layout, places, argumentPlaces, Place.vacate, mark, Filter.tool, ho, hp]

end Filter

/-! ## Reading

Reading the words of a filter gives the filter with its options in force, and still does so after
a change of the option texts that leaves texts on one line alone (`parseStage_words`).
-/

namespace Shell.Word

/-- The arguments that words give after a change of the option texts. -/
def arguments (isSwitch : Char → Bool) (change : Text → Text) (ws : List Word) :
    Except StageError Arguments :=
  Arguments.scan isSwitch ((ws.map (Word.map change)).map written)

variable {isSwitch : Char → Bool} {change : Text → Text}

theorem arguments_nil : arguments isSwitch change [] = .ok .empty := by
  simp [arguments, Arguments.scan]

theorem arguments_quoted {t : Text} {ws : List Word} {args : Arguments}
    (rest : arguments isSwitch change ws = .ok args) :
    arguments isSwitch change (quoted t :: ws) =
      .ok (args.addPositional (quote (change t))) := by
  unfold arguments at rest ⊢
  have step := Arguments.scan_positional isSwitch (isHyphenated_quote (change t))
    ((ws.map (Word.map change)).map written)
  rw [rest] at step
  exact step

theorem arguments_flagIf {on : Bool} {name : Char} {ws : List Word} {args : Arguments}
    (hyphen : name ≠ '-') (switch : isSwitch name = true)
    (rest : arguments isSwitch change ws = .ok args) :
    arguments isSwitch change (flagIf on name ++ ws) =
      .ok (args.addFlags (if on then [(name, .switch)] else [])) := by
  cases on with
  | false => exact rest
  | true =>
    unfold arguments at rest ⊢
    have step := Arguments.scan_switch hyphen switch ((ws.map (Word.map change)).map written)
    rw [rest] at step
    exact step

theorem arguments_flagIf_last {on : Bool} {name : Char} (hyphen : name ≠ '-')
    (switch : isSwitch name = true) :
    arguments isSwitch change (flagIf on name) =
      .ok (Arguments.empty.addFlags (if on then [(name, .switch)] else [])) := by
  have all : arguments isSwitch change (flagIf on name ++ []) = .ok _ :=
    arguments_flagIf hyphen switch arguments_nil
  rw [List.append_nil] at all
  exact all

theorem arguments_flag {name : Char} {w : Word} {ws : List Word} {args : Arguments}
    (hyphen : name ≠ '-') (switch : isSwitch name = false)
    (word : isHyphenated (w.map change).written = false) (proper : (w.map change).Proper)
    (rest : arguments isSwitch change ws = .ok args) :
    arguments isSwitch change (flag name :: w :: ws) =
      .ok (args.addFlags [(name, .value (w.map change).value)]) := by
  unfold arguments at rest ⊢
  have step := Arguments.scan_value hyphen switch word ((ws.map (Word.map change)).map written)
  rw [rest, proper.unquoteValue_written] at step
  exact step

theorem isHyphenated_delimiter (t : Text) :
    isHyphenated ((delimiter t).map change).written = false := by
  unfold delimiter
  split <;> rfl

theorem value_delimiter (h : change ['\t'] = ['\t']) (t : Text) :
    ((delimiter t).map change).value = change (normalTab t) := by
  unfold delimiter normalTab
  split
  · exact h.symm
  · rfl

end Shell.Word

namespace Filter

open Shell (Word Arguments)

variable {change : Text → Text}

def KeepsOneLine (change : Text → Text) : Prop := ∀ t, '\n' ∉ t → change t = t

/-- The arguments that the words of a filter give, and what the tool makes of them. -/
def ReadBack (change : Text → Text) (f : Filter) : Prop :=
  ∃ args, Word.arguments f.tool.isSwitch change f.arguments = .ok args ∧
    ofArguments args f.tool = f.effective.mapText change

private theorem readBack_cut (h : KeepsOneLine change) (o : Cut) :
    ReadBack change (.cut o) := by
  have fields : Word.arguments Tool.cut.isSwitch change [.flag 'f', .quoted o.fields] = .ok _ :=
    Word.arguments_flag (by decide) rfl (Shell.isHyphenated_quote _) trivial Word.arguments_nil
  have all : Word.arguments Tool.cut.isSwitch change (cut o).arguments = .ok _ :=
    Word.arguments_flag (by decide) rfl (Word.isHyphenated_delimiter o.separator)
      ((Word.proper_delimiter _).map change) fields
  rw [Word.value_delimiter (h _ (by decide)), Cut.normalTab_separator] at all
  refine ⟨_, all, ?_⟩
  simp only [effective, Cut.effective_delimiter]
  rfl

private theorem readBack_grep (o : Grep) : ReadBack change (.grep o) := by
  have pattern : ∃ args, Word.arguments Tool.grep.isSwitch change
      (Word.flagIf (Shell.isHyphenated o.pattern) 'e' ++ [.quoted o.pattern]) = .ok args ∧
      (args = ⟨[⟨Shell.quote (change o.pattern), change o.pattern⟩], []⟩ ∨
        args = ⟨[], [('e', .value (change o.pattern))]⟩) := by
    cases Shell.isHyphenated o.pattern with
    | false =>
      refine ⟨_, Word.arguments_quoted Word.arguments_nil, .inl ?_⟩
      simp [Arguments.addPositional, Arguments.empty, Shell.unquote_quote]
    | true =>
      exact ⟨_, Word.arguments_flag (by decide) rfl (Shell.isHyphenated_quote _) trivial
        Word.arguments_nil, .inr rfl⟩
  obtain ⟨args, read, shape⟩ := pattern
  unfold ReadBack
  simp only [arguments, List.append_assoc]
  refine ⟨_, Word.arguments_flagIf (by decide) rfl (Word.arguments_flagIf (by decide) rfl
    (Word.arguments_flagIf (by decide) rfl read)), ?_⟩
  cases o with
  | mk pattern ignoreCase inverted fixed =>
    rcases shape with rfl | rfl
    · have text : (if change pattern = [] then none else some (change pattern)).getD [] =
          change pattern := by
        split
        · next empty => exact empty.symm
        · rfl
      cases ignoreCase <;> cases inverted <;> cases fixed <;>
        simp [tool, ofArguments, effective, mapText, Grep.ofArguments, Arguments.addFlags,
          Arguments.isSet, Arguments.flag?, Arguments.value?, text]
    · cases ignoreCase <;> cases inverted <;> cases fixed <;> rfl

private theorem readBack_sort (o : LineSort) : ReadBack change (.sort o) := by
  refine ⟨_, Word.arguments_flagIf_last (by decide) rfl, ?_⟩
  cases o with
  | mk reversed => cases reversed <;> rfl

private theorem readBack_count (h : KeepsOneLine change) (o : LineCount)
    (isSwitch : Char → Bool) (switch : isSwitch 'n' = false) :
    ∃ args, Word.arguments isSwitch change [.flag 'n', .bare (Text.ofNat o.count)] = .ok args ∧
      LineCount.ofArguments args = ⟨change (Text.ofNat o.count)⟩ := by
  have oneLine : '\n' ∉ Text.ofNat o.count := fun mem => Text.ne_of_mem_ofNat mem rfl rfl
  have hyphen : Shell.isHyphenated (Text.ofNat o.count) = false := by
    cases number : Text.ofNat o.count with
    | nil => rfl
    | cons c t =>
      have first : c ∈ Text.ofNat o.count := by simp [number]
      simp [Shell.isHyphenated, Text.ne_of_mem_ofNat first (d := '-') rfl]
  refine ⟨_, Word.arguments_flag (by decide) switch hyphen (Word.proper_number _)
    Word.arguments_nil, ?_⟩
  rw [h _ oneLine]
  rfl

private theorem readBack_tr (h : KeepsOneLine change) (o : Tr) :
    ReadBack change (.tr o) := by
  have second : Word.arguments Tool.tr.isSwitch change
      (if o.writesSet2 then [.quoted o.set2] else []) =
        .ok ⟨if o.writesSet2 then [⟨Shell.quote (change o.set2), change o.set2⟩] else [], []⟩ := by
    cases o.writesSet2 with
    | false => exact Word.arguments_nil
    | true =>
      have read : Word.arguments Tool.tr.isSwitch change [.quoted o.set2] = .ok _ :=
        Word.arguments_quoted Word.arguments_nil
      simpa [Arguments.addPositional, Arguments.empty, Shell.unquote_quote] using read
  unfold ReadBack
  simp only [arguments, List.append_assoc]
  refine ⟨_, Word.arguments_flagIf (by decide) rfl (Word.arguments_flagIf (by decide) rfl
    (Word.arguments_quoted second)), ?_⟩
  have unused : change [] = [] := h [] (by simp)
  cases o with
  | mk set1 set2 delete squeeze =>
    -- Whether the second set is written depends on both switches and on the set being empty.
    cases delete <;> cases squeeze <;> cases set2 <;>
      simp [Tr.writesSet2, tool, ofArguments, effective, mapText, Tr.ofArguments,
        Arguments.addFlags, Arguments.addPositional, Arguments.isSet, Arguments.flag?,
        Shell.unquote_quote, unused]

private theorem readBack_wc (o : Wc) : ReadBack change (.wc o) := by
  unfold ReadBack
  simp only [arguments, List.append_assoc]
  refine ⟨_, Word.arguments_flagIf (by decide) rfl (Word.arguments_flagIf (by decide) rfl
    (Word.arguments_flagIf_last (by decide) rfl)), ?_⟩
  cases o with
  | mk lines words chars => cases lines <;> cases words <;> cases chars <;> rfl

private theorem isQuotedProgram_quote (t value : Text) :
    Awk.isQuotedProgram ⟨Shell.quote t, value⟩ = true := by
  have size : 2 ≤ (Shell.quote t).length := by simp [Shell.quote]
  have first : (Shell.quote t).head? = some '\'' := rfl
  have last : (Shell.quote t).getLast? = some '\'' := by
    rw [Shell.quote, ← List.cons_append, List.getLast?_concat]
  simp [Awk.isQuotedProgram, size, first, last]

private theorem readBack_awk (h : KeepsOneLine change) (o : Awk) :
    ReadBack change (.awk o) := by
  have program : Word.arguments Tool.awk.isSwitch change [.quoted o.effectiveProgram] = .ok _ :=
    Word.arguments_quoted Word.arguments_nil
  by_cases empty : o.separator = []
  · unfold ReadBack
    simp only [arguments, empty, List.isEmpty_nil, if_true, List.nil_append]
    refine ⟨_, program, ?_⟩
    have separator : change (Shell.normalTab []) = [] := h [] (by simp)
    simp [tool, ofArguments, Awk.ofArguments, Arguments.addPositional, Arguments.empty,
      Arguments.value?, Arguments.flag?, isQuotedProgram_quote, Shell.unquote_quote, effective,
      mapText, empty, separator, Awk.default]
  · unfold ReadBack
    simp only [arguments, List.isEmpty_iff, empty, if_false, List.cons_append, List.nil_append]
    refine ⟨_, Word.arguments_flag (by decide) rfl (Word.isHyphenated_delimiter o.separator)
      ((Word.proper_delimiter _).map change) program, ?_⟩
    rw [Word.value_delimiter (h _ (by decide))]
    simp [tool, ofArguments, Awk.ofArguments, Arguments.addPositional, Arguments.addFlags,
      Arguments.empty, Arguments.value?, Arguments.flag?, isQuotedProgram_quote,
      Shell.unquote_quote, effective, mapText]

private theorem readBack (h : KeepsOneLine change) (f : Filter) :
    ReadBack change f := by
  cases f with
  | cut o => exact readBack_cut h o
  | grep o => exact readBack_grep o
  | sort o => exact readBack_sort o
  | uniq => exact ⟨_, Word.arguments_nil, rfl⟩
  | head o =>
    obtain ⟨args, read, count⟩ := readBack_count h o Tool.head.isSwitch rfl
    exact ⟨args, read, congrArg Filter.head count⟩
  | tail o =>
    obtain ⟨args, read, count⟩ := readBack_count h o Tool.tail.isSwitch rfl
    exact ⟨args, read, congrArg Filter.tail count⟩
  | tr o => exact readBack_tr h o
  | wc o => exact readBack_wc o
  | awk o => exact readBack_awk h o

private theorem commandName_name (tool : Tool) : Shell.commandName tool.name = tool.name := by
  cases tool <;> decide

theorem parseStage_words (h : KeepsOneLine change) (f : Filter) :
    Shell.parseStage (Word.spell (f.words.map (Word.map change))) =
      .ok (f.effective.mapText change) := by
  have split := Word.splitWords?_spell (f.words_map_proper change)
  obtain ⟨args, read, same⟩ := readBack h f
  have known : Tool.ofName? (Shell.commandName f.tool.name) = some f.tool := by
    rw [commandName_name, Tool.ofName?_name]
  exact Shell.parseStage_eq_ok_iff.2 ⟨_, _, f.tool, args, split, known, read, same.symm⟩

end Filter

end Pipework
