import Pipework.Pipeline
import Pipework.Proofs.Filter.Words

/-!
Written commands and what they are read as.
-/

set_option autoImplicit false
set_option relaxedAutoImplicit false

namespace Pipework.Shell

/-! ## Reading back

A command is written as pieces with bars in front: the source, and for every filter a gap with its
words. `IsStage` says what makes such a piece one stage of the flattened command, whatever stands
behind it; the command is then cut into exactly its pieces (`splitStages_flatten_pieces`), and each
piece is read as its filter (`parse_serialize`).
-/

/-- A piece of a command that is one stage by itself. -/
structure IsStage (piece : Text) : Prop where
  apart : ∀ behind, flatten (piece ++ ' ' :: '|' :: behind) =
    flatten piece ++ ' ' :: '|' :: flatten behind
  enclosed : Enclosed (flatten piece)

private theorem flatten_pieces {α : Type} (write : α → Text) (items : List α)
    (h : ∀ item ∈ items, IsStage (write item)) {piece : Text} (first : IsStage piece) :
    flatten (piece ++ items.flatMap fun item => ' ' :: '|' :: write item) =
      flatten piece ++
        (items.map fun item => flatten (write item)).flatMap fun t => ' ' :: '|' :: t := by
  induction items generalizing piece with
  | nil => simp
  | cons item items ih =>
    obtain ⟨hitem, others⟩ := List.forall_mem_cons.1 h
    rw [List.flatMap_cons, List.cons_append, List.cons_append, first.apart, ih others hitem]
    simp

/-- A command on one line is cut at the bars between its pieces and nowhere else. -/
theorem splitStages_flatten_pieces {α : Type} (write : α → Text) (items : List α)
    (h : ∀ item ∈ items, IsStage (write item)) {piece : Text} (first : IsStage piece) :
    splitStages (flatten (piece ++ items.flatMap fun item => ' ' :: '|' :: write item)) =
      Text.trim (flatten piece) :: items.map fun item => Text.trim (flatten (write item)) := by
  have enclosed : ∀ t ∈ items.map fun item => flatten (write item), Enclosed t := by
    intro t ht
    obtain ⟨item, hitem, rfl⟩ := List.mem_map.1 ht
    exact (h item hitem).enclosed
  rw [flatten_pieces write items h first, splitStages_pieces first.enclosed enclosed, List.map_map]
  rfl

namespace Serializer

/-- A source without quotes, backslashes, bars and line feeds, and an indentation of blanks. -/
structure Plain (s : Serializer) : Prop where
  source : ∀ c ∈ s.source, c ≠ '\'' ∧ c ≠ '\x22' ∧ c ≠ '\\' ∧ c ≠ '|' ∧ c ≠ '\n'
  indent : Text.Blank s.indent

theorem plain_default : default.Plain where
  source := by
    have plain : default.source.all (fun c =>
        c != '\'' && c != '\x22' && c != '\\' && c != '|' && c != '\n') = true := by decide
    intro c hc
    simpa [and_assoc] using List.all_eq_true.1 plain c hc
  indent := Text.blank_cons.2 ⟨rfl, Text.blank_space⟩

def gap (s : Serializer) (formatted : Bool) : Text :=
  if formatted then ' ' :: '\\' :: '\n' :: s.indent else [' ']

theorem serialize_eq (s : Serializer) (formatted : Bool) (filters : List Filter) :
    s.serialize formatted filters =
      s.source ++ filters.flatMap fun f => ' ' :: '|' :: (s.gap formatted ++ f.render) := by
  cases formatted <;> simp [serialize, joint, gap]

theorem Plain.blank_gap {s : Serializer} (hs : s.Plain) (formatted : Bool) :
    Text.Blank (flatten (s.gap formatted)) := by
  cases formatted with
  | false => exact Text.blank_space
  | true =>
    rw [gap, if_pos rfl, flatten_continuation hs.indent]
    exact Text.blank_cons.2 ⟨rfl, Text.blank_space⟩

theorem Plain.isStage_source {s : Serializer} (hs : s.Plain) : IsStage s.source := by
  have oneLine : '\n' ∉ s.source := fun mem => (hs.source _ mem).2.2.2.2 rfl
  have flat : flatten s.source = s.source := flatten_oneLine oneLine
  constructor
  · intro behind
    have bar : isFirm '|' = true := rfl
    have spaced : flatten (s.source ++ [' ']) = s.source ++ [' '] :=
      flatten_oneLine (by simp [oneLine])
    have shape : s.source ++ ' ' :: '|' :: behind = s.source ++ [' '] ++ '|' :: behind := by simp
    rw [shape, flatten_append_firm bar, spaced, flat]
    simp
  · rw [flat]
    refine enclosed_of_forall fun c hc => ?_
    obtain ⟨single, double, backslash, bar, -⟩ := hs.source c hc
    exact ⟨single, double, backslash, bar⟩

theorem flatten_piece (s : Serializer) (formatted : Bool) (f : Filter) :
    flatten (s.gap formatted ++ f.render) =
      flatten (s.gap formatted) ++ Word.spell (f.words.map (Word.map flatten)) := by
  have framed : Text.Framed isFirm (Word.spell f.words) := Word.framed_spell f.words_proper
  rw [Filter.render_eq_spell, flatten_append_first framed.first, Word.flatten_spell f.words_proper]

theorem Plain.isStage_piece {s : Serializer} (hs : s.Plain) (formatted : Bool) (f : Filter) :
    IsStage (s.gap formatted ++ f.render) := by
  have gap := hs.blank_gap formatted
  have flat := s.flatten_piece formatted f
  have proper := f.words_map_proper flatten
  constructor
  · intro behind
    have framed : Text.Framed isFirm (Word.spell f.words) := Word.framed_spell f.words_proper
    obtain ⟨front, e, last, he⟩ := framed.last
    have whole : ∃ front e, s.gap formatted ++ f.render = front ++ [e] ∧ isFirm e = true :=
      ⟨s.gap formatted ++ front, e, by simp [Filter.render_eq_spell, last], he⟩
    rw [flatten_append_last whole, flatten_bar]
  · rw [flat]
    exact (enclosed_blank gap).append (Word.enclosed_spell proper)

theorem Plain.trim_piece {s : Serializer} (hs : s.Plain) (formatted : Bool) (f : Filter) :
    Text.trim (flatten (s.gap formatted ++ f.render)) =
      Word.spell (f.words.map (Word.map flatten)) := by
  have trimmed : Text.trim (Word.spell (f.words.map (Word.map flatten))) =
      Word.spell (f.words.map (Word.map flatten)) := Word.trim_spell (f.words_map_proper flatten)
  rw [s.flatten_piece, Text.trim_blanks_append (hs.blank_gap formatted), trimmed]

theorem Plain.parse_flattened {s : Serializer} (hs : s.Plain) (formatted : Bool)
    (filters : List Filter) :
    parse (s.serialize formatted filters) =
      .ok (filters.map fun f => f.effective.mapText flatten) := by
  have stages : splitStages (flatten (s.serialize formatted filters)) =
      Text.trim (flatten s.source) ::
        filters.map fun f => Text.trim (flatten (s.gap formatted ++ f.render)) := by
    rw [serialize_eq]
    exact splitStages_flatten_pieces _ filters (fun f _ => hs.isStage_piece formatted f)
      hs.isStage_source
  rw [parse_eq, stages, List.drop_one, List.tail_cons]
  refine parseStages_map _ _ filters fun f _ => ?_
  rw [hs.trim_piece]
  exact f.parseStage_words fun t ht => flatten_oneLine ht

theorem Plain.parse_oneLine {s : Serializer} (hs : s.Plain) (formatted : Bool)
    {filters : List Filter} (h : ∀ f ∈ filters, f.OneLine) :
    parse (s.serialize formatted filters) = .ok (filters.map Filter.effective) := by
  have same : ∀ f ∈ filters, f.effective.mapText flatten = f.effective := by
    intro f hf
    exact Filter.mapText_eq_self fun t ht => flatten_oneLine ((h f hf).effective t ht)
  rw [hs.parse_flattened, List.map_congr_left same]

/-- Every filter of a written command comes back with the options in force, each of its option
texts on one line. A text that is on one line comes back as it is. -/
theorem parse_serialize {s : Serializer} (hs : s.Plain) (formatted : Bool)
    (filters : List Filter) :
    parse (s.serialize formatted filters) =
        .ok (filters.map fun f => f.effective.mapText flatten) ∧
      ((∀ f ∈ filters, f.OneLine) →
        parse (s.serialize formatted filters) = .ok (filters.map Filter.effective)) :=
  ⟨hs.parse_flattened formatted filters, fun h => hs.parse_oneLine formatted h⟩

/-- A pattern with a hyphen in front, a bar, both quotes and a continued line. -/
theorem parse_serialize_hyphenated :
    default.Plain ∧
      parse (default.serialize true
        [.grep ⟨"-a|'\x22\\\n  b\\".toList, true, false, false⟩, .cut ⟨"\\t".toList, ['1']⟩,
          .head ⟨['x']⟩]) =
        .ok [.grep ⟨"-a|'\x22 b\\".toList, true, false, false⟩, .cut ⟨['\t'], ['1']⟩,
          .head ⟨['1', '0']⟩] ∧
      parse (default.serialize false [.tr ⟨['a'], ['b'], true, false⟩]) =
        .ok [.tr ⟨['a'], [], true, false⟩] := by
  have oneLine : ∀ f ∈ [Filter.tr ⟨['a'], ['b'], true, false⟩], f.OneLine := by decide
  exact ⟨plain_default, (parse_serialize plain_default true _).1.trans (by rfl),
    (parse_serialize plain_default false _).2 oneLine⟩

end Serializer

end Pipework.Shell

/-! ## Containment

A command on one line is cut into its source and the commands of its filters, and each of these is
cut into the words that its filter has places for. No character of an option text ends a stage or
a word, opens a quote or is lost (`serialize_contained`).
-/

namespace Pipework

namespace Filter

theorem enclosed_render (f : Filter) : Shell.Enclosed f.render := by
  rw [f.render_eq_spell]
  exact Shell.Word.enclosed_spell f.words_proper

theorem trim_render (f : Filter) : Text.trim f.render = f.render := by
  have trimmed : Text.trim (Shell.Word.spell f.words) = Shell.Word.spell f.words :=
    Shell.Word.trim_spell f.words_proper
  rw [f.render_eq_spell, trimmed]

end Filter

namespace Shell.Serializer

private theorem splitStages_serialize {s : Serializer}
    (hs : ∀ c ∈ s.source, c ≠ '\'' ∧ c ≠ '\x22' ∧ c ≠ '\\' ∧ c ≠ '|') (filters : List Filter) :
    splitStages (s.serialize false filters) = Text.trim s.source :: filters.map Filter.render := by
  have enclosed : ∀ piece ∈ filters.map fun f => ' ' :: f.render, Enclosed piece := by
    intro piece hpiece
    obtain ⟨f, -, rfl⟩ := List.mem_map.1 hpiece
    exact (enclosed_blank Text.blank_space).append f.enclosed_render
  have shape : s.serialize false filters =
      s.source ++ (filters.map fun f => ' ' :: f.render).flatMap fun t => ' ' :: '|' :: t := by
    simp [serialize_eq, gap, List.flatMap_map]
  have trimmed (f : Filter) : Text.trim (' ' :: f.render) = f.render := by
    rw [Text.trim_cons_blank rfl, f.trim_render]
  rw [shape, splitStages_pieces (enclosed_of_forall hs) enclosed, List.map_map]
  simp [trimmed]

/-- Behind a source without quotes, backslashes and bars, every filter is one stage of the
command, written as it is by itself. The words of a filter fill its places, each text exactly.
Where these places are, the option texts decide by their mark alone. -/
theorem serialize_contained {s : Serializer}
    (hs : ∀ c ∈ s.source, c ≠ '\'' ∧ c ≠ '\x22' ∧ c ≠ '\\' ∧ c ≠ '|') (filters : List Filter) :
    splitStages (s.serialize false filters) = Text.trim s.source :: filters.map Filter.render ∧
      (∀ f : Filter, ∃ words, splitWords f.render = .ok words ∧
        List.Forall₂ Place.FilledBy f.places words) ∧
      ∀ f g : Filter, f.tool = g.tool → f.flags = g.flags →
        (f.layout = g.layout ↔ f.mark = g.mark) :=
  ⟨splitStages_serialize hs filters, Filter.exists_words, fun _ _ => Filter.layout_eq_iff⟩

/-- Texts that try to close their quotes, to start a stage and to continue the line. -/
theorem serialize_contained_hostile :
    (∀ c ∈ " cat f;\n".toList, c ≠ '\'' ∧ c ≠ '\x22' ∧ c ≠ '\\' ∧ c ≠ '|') ∧
      splitStages (serialize ⟨" cat f;\n".toList, []⟩ false
          [.grep ⟨"' | uniq '\\".toList, false, true, false⟩,
            .tr ⟨"\\\n|".toList, [], false, true⟩]) =
        ["cat f;".toList, "grep -v ''\\'' | uniq '\\''\\'".toList, "tr -s '\\\n|'".toList] := by
  have source : ∀ c ∈ " cat f;\n".toList, c ≠ '\'' ∧ c ≠ '\x22' ∧ c ≠ '\\' ∧ c ≠ '|' := by
    simp
  have stages (filters : List Filter) :=
    (serialize_contained (s := ⟨" cat f;\n".toList, []⟩) source filters).1
  exact ⟨source, (stages _).trans (by decide)⟩

end Shell.Serializer

/-! ## Loading

The options that a command does not carry make no difference: a run over the filters with their
options in force is the same run (`runFrom_effective`), error messages included, and writes the
same command. So a pipeline that loads its own command behaves as before (`load_command`).
-/

theorem Preview.runFrom_effective (lines : List Text) (text : Text) (filters : List Filter) :
    runFrom lines text (filters.map Filter.effective) = runFrom lines text filters := by
  induction filters generalizing lines text with
  | nil => rfl
  | cons f filters ih =>
    rw [List.map_cons, runFrom, runFrom, f.apply_effective, f.tool_effective]
    cases f.apply lines text with
    | error e => rfl
    | ok next => exact ih next (Text.join ['\n'] next)

theorem Preview.evaluate_effective (raw : Text) (filters : List Filter) :
    evaluate raw (filters.map Filter.effective) = evaluate raw filters := by
  rw [evaluate, evaluate, run, run, runFrom_effective]

theorem Shell.Serializer.serialize_effective (s : Serializer) (formatted : Bool)
    (filters : List Filter) :
    s.serialize formatted (filters.map Filter.effective) = s.serialize formatted filters := by
  simp only [serialize, List.flatMap_map, Filter.render_effective]

theorem Draft.settle_filter (supply : IdSupply) (used : Nat) (drafts : List Draft) :
    (settle supply used drafts).1.map Step.filter = drafts.map Draft.filter := by
  induction drafts generalizing used with
  | nil => rfl
  | cons d drafts ih =>
    rw [settle]
    cases d.id with
    | none => simp [ih (used + 1)]
    | some id => simp [ih used]

namespace Pipeline

theorem filters_replace (supply : IdSupply) (p : Pipeline) (drafts : List Draft) :
    (p.replace supply drafts).filters = drafts.map Draft.filter :=
  Draft.settle_filter supply p.issued drafts

theorem tools_eq (p : Pipeline) : p.steps.map Step.tool = p.filters.map Filter.tool := by
  simp [filters, Step.tool]

private theorem load_effective (supply : IdSupply) (p : Pipeline) {command : Text}
    (h : Shell.parse command = .ok (p.filters.map Filter.effective)) :
    ∃ q, p.load supply command = .ok q ∧ q.filters = p.filters.map Filter.effective := by
  refine ⟨_, by rw [load, h]; rfl, ?_⟩
  rw [filters_replace]
  simp

/-- A pipeline whose option texts are on one line loads its own command, and is then the same to
every text and in every command. -/
theorem load_command {s : Shell.Serializer} (hs : s.Plain) (formatted : Bool) (supply : IdSupply)
    (p : Pipeline) (h : ∀ f ∈ p.filters, f.OneLine) :
    (∃ q, p.load supply (p.command s formatted) = .ok q ∧
        q.steps.map Step.tool = p.steps.map Step.tool ∧
        (∀ raw, q.preview raw = p.preview raw) ∧
        ∀ s' formatted', q.command s' formatted' = p.command s' formatted') ∧
      ∀ f : Filter, (∀ lines text, f.effective.apply lines text = f.apply lines text) ∧
        f.effective.render = f.render := by
  constructor
  · obtain ⟨q, loaded, filters⟩ := p.load_effective supply (hs.parse_oneLine formatted h)
    refine ⟨q, loaded, ?_, ?_, ?_⟩
    · rw [tools_eq, tools_eq, filters, List.map_map]
      simp
    · intro raw
      rw [preview, preview, filters, Preview.evaluate_effective]
    · intro s' formatted'
      rw [command, command, filters, Shell.Serializer.serialize_effective]
  · exact fun f => ⟨f.apply_effective, f.render_effective⟩

def unset : Pipeline where
  steps := [⟨⟨0, 1⟩, .cut ⟨[], ['1']⟩⟩, ⟨⟨0, 2⟩, .head ⟨['x']⟩⟩,
    ⟨⟨0, 3⟩, .awk ⟨['\\', 't'], [' ']⟩⟩, ⟨⟨0, 4⟩, .tr ⟨['a'], ['b'], true, false⟩⟩]
  templates := .default
  issued := 4

theorem load_command_unset :
    Shell.Serializer.default.Plain ∧ (∀ f ∈ unset.filters, f.OneLine) ∧
      ∃ q, unset.load (fun n => ⟨0, n.toUInt64⟩) (unset.command .default true) = .ok q ∧
        q.steps.map Step.tool = [.cut, .head, .awk, .tr] ∧
        (∀ raw, q.preview raw = unset.preview raw) ∧
        ∀ s' formatted', q.command s' formatted' = unset.command s' formatted' := by
  have oneLine : ∀ f ∈ unset.filters, f.OneLine := by decide
  exact ⟨Shell.Serializer.plain_default, oneLine,
    (load_command Shell.Serializer.plain_default true _ unset oneLine).1⟩

end Pipeline

/-! ## Canonical commands

Whatever command is accepted, its filters have all option texts on one line (`oneLine_of_parse`),
so what they are written as is read as their options in force and written the same way again
(`parse_canonical`).
-/

private theorem newline_not_mem_getD {value : Option Text}
    (hvalue : ∀ t, value = some t → '\n' ∉ t) {default : Text} (hdefault : '\n' ∉ default) :
    '\n' ∉ value.getD default := by
  cases value with
  | none => exact hdefault
  | some t => exact hvalue t rfl

theorem LineCount.oneLine_ofArguments {args : Shell.Arguments} (h : args.OneLine) :
    '\n' ∉ (LineCount.ofArguments args).n := by
  rw [ofArguments]
  split
  · next t found => exact h.value? found
  · decide

namespace Filter

theorem oneLine_ofArguments {args : Shell.Arguments} (h : args.OneLine) (tool : Tool) :
    (ofArguments args tool).OneLine := by
  have flag (name : Char) (t : Text) (found : args.value? name = some t) : '\n' ∉ t :=
    h.value? found
  have positional : ∀ t ∈ args.positionals.map Shell.Positional.value, '\n' ∉ t := by
    intro t ht
    obtain ⟨p, hp, rfl⟩ := List.mem_map.1 ht
    exact h.positional p hp
  rw [oneLine_iff]
  cases tool with
  | cut =>
    exact ⟨newline_not_mem_getD (flag 'd') (by decide), newline_not_mem_getD (flag 'f') (by decide)⟩
  | grep =>
    refine newline_not_mem_getD (fun t ht => ?_) (by decide)
    cases first : (args.positionals.map Shell.Positional.value).find? (!·.isEmpty) with
    | none =>
      rw [first] at ht
      exact flag 'e' t ht
    | some word =>
      rw [first] at ht
      have same : word = t := Option.some.inj ht
      rw [← same]
      exact positional word (List.mem_of_find?_eq_some first)
  | sort => trivial
  | uniq => trivial
  | head => exact LineCount.oneLine_ofArguments h
  | tail => exact LineCount.oneLine_ofArguments h
  | tr =>
    have set (i : Nat) : '\n' ∉ ((args.positionals.map Shell.Positional.value)[i]?).getD [] :=
      newline_not_mem_getD (fun t ht => positional t (List.mem_of_getElem? ht)) (by decide)
    exact ⟨set 0, set 1⟩
  | wc => trivial
  | awk =>
    refine ⟨newline_not_mem_getD (flag 'F') (by decide),
      newline_not_mem_getD (fun t ht => ?_) (by decide)⟩
    obtain ⟨p, hp, rfl⟩ := Option.map_eq_some_iff.1 ht
    exact h.positional p (List.mem_of_find?_eq_some hp)

end Filter

namespace Shell

theorem oneLine_of_parseStage {stage : Text} {f : Filter} (h : parseStage stage = .ok f)
    (oneLine : '\n' ∉ stage) : f.OneLine := by
  obtain ⟨word, rest, tool, args, split, -, read, rfl⟩ := parseStage_eq_ok_iff.1 h
  refine Filter.oneLine_ofArguments (Arguments.oneLine_scan read fun w hw mem => ?_) tool
  exact oneLine (mem_of_mem_splitWords? split (List.mem_cons_of_mem word hw) mem)

theorem oneLine_of_parseStages {stages : List Text} {filters : List Filter}
    (h : parseStages stages = .ok filters) (oneLine : ∀ stage ∈ stages, '\n' ∉ stage) :
    ∀ f ∈ filters, f.OneLine := by
  induction stages generalizing filters with
  | nil =>
    cases h
    simp
  | cons stage stages ih =>
    rw [parseStages] at h
    cases first : parseStage stage with
    | error e => simp [first] at h
    | ok f =>
      rw [first] at h
      obtain ⟨others, hothers, rfl⟩ := exists_of_map_eq_ok h
      have rest := ih hothers fun other hother => oneLine other (List.mem_cons_of_mem stage hother)
      have here := oneLine_of_parseStage first (oneLine stage List.mem_cons_self)
      exact List.forall_mem_cons.2 ⟨here, rest⟩

/-- The option texts of an accepted command are on one line, however it was written. -/
theorem oneLine_of_parse {command : Text} {filters : List Filter}
    (h : parse command = .ok filters) : ∀ f ∈ filters, f.OneLine := by
  rw [parse_eq] at h
  refine oneLine_of_parseStages h fun stage hstage mem => ?_
  have inFlat := mem_of_mem_splitStages (List.mem_of_mem_drop hstage) mem
  exact newline_not_mem_flatten command inFlat

/-- What is read from any command is written in a form that is read as its options in force, and
these are written in the same form. -/
theorem parse_canonical {command : Text} {filters : List Filter}
    (h : parse command = .ok filters) :
    (∀ f ∈ filters, f.OneLine) ∧
      ∀ formatted,
        parse (Serializer.default.serialize formatted filters) =
            .ok (filters.map Filter.effective) ∧
          Serializer.default.serialize formatted (filters.map Filter.effective) =
            Serializer.default.serialize formatted filters := by
  have oneLine := oneLine_of_parse h
  refine ⟨oneLine, fun formatted => ⟨?_, ?_⟩⟩
  · exact Serializer.plain_default.parse_oneLine formatted oneLine
  · exact Serializer.default.serialize_effective formatted filters

/-- A cluster, a flag given twice, a number sign in front of a word and a backslash at the end. -/
theorem parse_canonical_cluster :
    parse "cat f | grep -vie '#a' | cut -d ; -f2 -f \\t | tr -d a b\\".toList =
        .ok [.grep ⟨"#a".toList, true, true, false⟩, .cut ⟨[';'], ['\t']⟩,
          .tr ⟨['a'], "b\\".toList, true, false⟩] ∧
      parse (Serializer.default.serialize true [.grep ⟨"#a".toList, true, true, false⟩,
          .cut ⟨[';'], ['\t']⟩, .tr ⟨['a'], "b\\".toList, true, false⟩]) =
        .ok [.grep ⟨"#a".toList, true, true, false⟩, .cut ⟨[';'], ['\t']⟩,
          .tr ⟨['a'], [], true, false⟩] := by
  have read : parse "cat f | grep -vie '#a' | cut -d ; -f2 -f \\t | tr -d a b\\".toList =
      .ok [.grep ⟨"#a".toList, true, true, false⟩, .cut ⟨[';'], ['\t']⟩,
        .tr ⟨['a'], "b\\".toList, true, false⟩] := eq_ok_of_toOption (by decide +kernel)
  exact ⟨read, ((parse_canonical read).2 true).1.trans (by rfl)⟩

end Shell

end Pipework
