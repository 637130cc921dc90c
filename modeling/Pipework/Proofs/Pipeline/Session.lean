import Mathlib.Data.List.Forall2
import Pipework.Proofs.Filter.Options

/-!
Sessions: pipelines under edits.
-/

set_option autoImplicit false
set_option relaxedAutoImplicit false

namespace Pipework

/-! ## Edits

An edit of an option addresses the first step with the id, and no other step is touched. One that
is refused leaves the whole pipeline as it is (`setOption_exact`).
-/

inductive Edit
  | add (tool : Tool)
  | remove (id : StepId)
  | setOption (id : StepId) (key : Text) (value : OptionValue)

inductive Answer
  | added (id : StepId)
  | removed (step : Option Step)
  | taken
  | refused (e : EditError)

/-- Carry out an edit; a refused one keeps the pipeline. -/
def Edit.perform (supply : IdSupply) (p : Pipeline) : Edit → Answer × Pipeline
  | .add tool => (.added (p.add supply tool).1, (p.add supply tool).2)
  | .remove id => (.removed (p.remove id).1, (p.remove id).2)
  | .setOption id key value =>
    match p.setOption id key value with
    | .ok edited => (.taken, edited)
    | .error e => (.refused e, p)

namespace Pipeline

variable {id : StepId} {steps before after : List Step} {s : Step}

theorem absent_or_first (id : StepId) (steps : List Step) :
    (∀ s ∈ steps, s.id ≠ id) ∨
      ∃ before s after, steps = before ++ s :: after ∧ (∀ t ∈ before, t.id ≠ id) ∧ s.id = id := by
  cases h : steps.find? (·.id = id) with
  | none => exact .inl (by simpa using List.find?_eq_none.1 h)
  | some s =>
    obtain ⟨found, before, after, split, earlier⟩ := List.find?_eq_some_iff_append.1 h
    exact .inr ⟨before, s, after, split, by simpa using earlier, by simpa using found⟩

theorem ne_of_distinct (distinct : ((before ++ s :: after).map Step.id).Nodup) :
    ∀ t ∈ before ++ after, t.id ≠ s.id := by
  rw [List.map_append, List.map_cons, List.nodup_middle, List.nodup_cons, ← List.map_append]
    at distinct
  exact fun t mem same => distinct.1 (same ▸ List.mem_map_of_mem mem)

theorem eraseP_append (earlier : ∀ t ∈ before, t.id ≠ s.id) :
    (before ++ s :: after).eraseP (·.id = s.id) = before ++ after := by
  rw [List.eraseP_append_right _ (by simpa using earlier), List.eraseP_cons_of_pos (by simp)]

theorem step?_append {p : Pipeline} (split : p.steps = before ++ s :: after)
    (earlier : ∀ t ∈ before, t.id ≠ s.id) : p.step? s.id = some s := by
  rw [step?, split, List.find?_append, List.find?_eq_none.2 (by simpa using earlier)]
  simp

theorem step?_eq_none_iff {p : Pipeline} : p.step? id = none ↔ id ∉ p.steps.map Step.id := by
  simp [step?]

theorem step?_of_mem {p : Pipeline} (distinct : (p.steps.map Step.id).Nodup) (mem : s ∈ p.steps) :
    p.step? s.id = some s := by
  obtain ⟨before, after, split⟩ := List.append_of_mem mem
  rw [split] at distinct
  exact step?_append split fun t among => ne_of_distinct distinct t (List.mem_append_left _ among)

theorem editFirst_absent (key : Text) (value : OptionValue) (absent : ∀ s ∈ steps, s.id ≠ id) :
    editFirst id key value steps = .error (.unknownStep id) := by
  induction steps with
  | nil => rfl
  | cons s steps ih =>
    rw [List.forall_mem_cons] at absent
    simp only [editFirst, if_neg absent.1, ih absent.2]
    rfl

theorem editFirst_append (key : Text) (value : OptionValue) (earlier : ∀ t ∈ before, t.id ≠ id)
    (found : s.id = id) :
    editFirst id key value (before ++ s :: after) =
      (s.filter.edit key value).map fun f => before ++ ⟨id, f⟩ :: after := by
  induction before with
  | nil => simp [editFirst, found]
  | cons t before ih =>
    rw [List.forall_mem_cons] at earlier
    simp only [List.cons_append, editFirst, if_neg earlier.1, ih earlier.2]
    cases s.filter.edit key value <;> rfl

section SetOption

variable {p : Pipeline} {key : Text} {value : OptionValue}

theorem setOption_absent (absent : ∀ s ∈ p.steps, s.id ≠ id) :
    p.setOption id key value = .error (.unknownStep id) := by
  rw [setOption, editFirst_absent key value absent]
  rfl

theorem setOption_append (split : p.steps = before ++ s :: after)
    (earlier : ∀ t ∈ before, t.id ≠ id) (found : s.id = id) :
    p.setOption id key value =
      (s.filter.edit key value).map fun f => { p with steps := before ++ ⟨id, f⟩ :: after } := by
  rw [setOption, split, editFirst_append key value earlier found]
  cases s.filter.edit key value <;> rfl

theorem setOption_eq_unknownStep_iff :
    p.setOption id key value = .error (.unknownStep id) ↔ ∀ s ∈ p.steps, s.id ≠ id := by
  refine ⟨fun refused => ?_, setOption_absent⟩
  rcases absent_or_first id p.steps with absent | ⟨before, s, after, split, earlier, found⟩
  · exact absent
  · rw [setOption_append split earlier found, Filter.edit] at refused
    cases h : s.filter.set key value with
    | ok f => simp [h, Except.mapError, Except.map] at refused
    | error fault =>
      cases fault <;> simp [h, Except.mapError, Except.map, EditError.ofFault] at refused

theorem setOption_eq_error_iff (key : Text) (value : OptionValue)
    (split : p.steps = before ++ s :: after) (earlier : ∀ t ∈ before, t.id ≠ id)
    (found : s.id = id) (fault : OptionFault) :
    p.setOption id key value = .error (.ofFault s.tool key fault) ↔
      s.filter.set key value = .error fault := by
  rw [setOption_append split earlier found, Filter.edit]
  cases s.filter.set key value with
  | ok f => simp [Except.mapError, Except.map]
  | error other =>
    cases other <;> cases fault <;>
      simp [Except.mapError, Except.map, EditError.ofFault, Step.tool]

theorem setOption_eq_ok_iff (split : p.steps = before ++ s :: after)
    (earlier : ∀ t ∈ before, t.id ≠ id) (found : s.id = id) {q : Pipeline} :
    p.setOption id key value = .ok q ↔
      ∃ f, s.filter.set key value = .ok f ∧
        q = { p with steps := before ++ ⟨id, f⟩ :: after } := by
  rw [setOption_append split earlier found, Filter.edit]
  cases s.filter.set key value <;> simp [Except.mapError, Except.map, eq_comm]

/-- An edit of an option is refused for the id exactly when no step has it. Otherwise the first
step with the id decides: the edit is refused for a key that its tool does not have, and for a value
of the other kind unless the option takes both. An edit that is taken changes the options of that
step alone: as JSON they are the ones before with what the edit sets.

A refused edit keeps the pipeline. Setting an option reads the value before it changes the record of
the options, for every tool and key, so there is no moment at which an edit has failed and has
changed something. This is why `Filter.set` can give either new options or a fault, and why the
edit of a pipeline gives back the old one with the error. -/
theorem setOption_exact (supply : IdSupply) (p : Pipeline) (id : StepId) (key : Text)
    (value : OptionValue) :
    (p.setOption id key value = .error (.unknownStep id) ↔ ∀ s ∈ p.steps, s.id ≠ id) ∧
      (∀ before s after, p.steps = before ++ s :: after → (∀ t ∈ before, t.id ≠ id) → s.id = id →
        (p.setOption id key value = .error (.unknownKey s.tool key) ↔ s.tool.kind? key = none) ∧
        (p.setOption id key value = .error (.expectsFlag s.tool key) ↔
          s.tool.kind? key = some .flag ∧ value.kind = .text ∧ ¬ s.tool.TakesBoth key) ∧
        (p.setOption id key value = .error (.expectsText s.tool key) ↔
          s.tool.kind? key = some .text ∧ value.kind = .flag) ∧
        ((∃ q, p.setOption id key value = .ok q) ↔ s.tool.Takes key value) ∧
        ∀ q, p.setOption id key value = .ok q →
          ∃ f : Filter, q = { p with steps := before ++ ⟨id, f⟩ :: after } ∧ f.tool = s.tool ∧
            f.optionMembers =
              amend ((s.tool.changes key value).map fun m => (m.1, m.2.toJson))
                s.filter.optionMembers) ∧
      ∀ e, p.setOption id key value = .error e →
        (Edit.setOption id key value).perform supply p = (.refused e, p) := by
  refine ⟨setOption_eq_unknownStep_iff, fun before s after split earlier found => ?_,
    fun e refused => by simp only [Edit.perform, refused]⟩
  have refused_iff := setOption_eq_error_iff key value split earlier found
  refine ⟨?_, ?_, ?_, ?_, ?_⟩
  · exact (refused_iff .unknownKey).trans (s.filter.set_eq_unknownKey_iff key value)
  · exact (refused_iff .expectsFlag).trans (s.filter.set_eq_expectsFlag_iff key value)
  · exact (refused_iff .expectsText).trans (s.filter.set_eq_expectsText_iff key value)
  · constructor
    · rintro ⟨q, edited⟩
      obtain ⟨f, taken, -⟩ := (setOption_eq_ok_iff split earlier found).1 edited
      exact Filter.takes_of_set_eq_ok taken
    · intro takes
      obtain ⟨f, taken, -⟩ := Filter.exists_set_eq_ok takes
      exact ⟨_, (setOption_eq_ok_iff split earlier found).2 ⟨f, taken, rfl⟩⟩
  · intro q edited
    obtain ⟨f, taken, rfl⟩ := (setOption_eq_ok_iff split earlier found).1 edited
    obtain ⟨tool, fields⟩ := Filter.tool_and_fields_of_set_eq_ok taken
    exact ⟨f, rfl, tool, Filter.optionMembers_of_fields fields⟩

/-- A text for the direction of the second match, which becomes its pattern. -/
theorem setOption_exact_direction :
    let p : Pipeline := ⟨[⟨⟨0, 1⟩, .uniq⟩, ⟨⟨0, 2⟩, .grep ⟨['a'], true, false, false⟩⟩], .default, 2⟩
    ∃ f : Filter, p.setOption ⟨0, 2⟩ ['v'] (.text ['b']) =
        .ok { p with steps := [⟨⟨0, 1⟩, .uniq⟩, ⟨⟨0, 2⟩, f⟩] } ∧
      f.optionMembers = [(['F'], .bool false), (['i'], .bool true),
        ("pattern".toList, .string ['b']), (['v'], .bool true)] := by
  intro p
  obtain ⟨-, exact, -⟩ :=
    setOption_exact (fun n => ⟨0, n.toUInt64⟩) p ⟨0, 2⟩ ['v'] (.text ['b'])
  obtain ⟨-, -, -, taken, changed⟩ := exact [⟨⟨0, 1⟩, .uniq⟩] _ [] rfl (by decide) rfl
  obtain ⟨q, ok⟩ := taken.2 (.inr ⟨rfl, rfl⟩)
  obtain ⟨f, rfl, -, members⟩ := changed q ok
  exact ⟨f, ok, members.trans rfl⟩

end SetOption

end Pipeline

inductive Edit.Outcome (supply : IdSupply) (p : Pipeline) : Edit → Answer → Pipeline → Prop
  | added (tool : Tool) :
      Outcome supply p (.add tool) (.added (supply p.issued))
        { p with
          steps := p.steps ++ [⟨supply p.issued, p.templates.filter tool⟩]
          issued := p.issued + 1 }
  | removed (id : StepId) :
      Outcome supply p (.remove id) (.removed (p.step? id))
        { p with steps := p.steps.eraseP (·.id = id) }
  | taken {before after : List Step} {s : Step} {key : Text} {value : OptionValue} {f : Filter} :
      p.steps = before ++ s :: after → (∀ t ∈ before, t.id ≠ s.id) →
      s.filter.edit key value = .ok f →
      Outcome supply p (.setOption s.id key value) .taken
        { p with steps := before ++ ⟨s.id, f⟩ :: after }
  | refused {id : StepId} {key : Text} {value : OptionValue} {e : EditError} :
      p.setOption id key value = .error e →
      Outcome supply p (.setOption id key value) (.refused e) p

theorem Edit.outcome_perform (supply : IdSupply) (p : Pipeline) (e : Edit) :
    Outcome supply p e (e.perform supply p).1 (e.perform supply p).2 := by
  cases e with
  | add tool => exact .added tool
  | remove id => exact .removed id
  | setOption id key value =>
    cases h : p.setOption id key value with
    | error e =>
      simp only [perform, h]
      exact .refused h
    | ok q =>
      simp only [perform, h]
      rcases Pipeline.absent_or_first id p.steps with
        absent | ⟨before, s, after, split, earlier, rfl⟩
      · cases (Pipeline.setOption_absent absent).symm.trans h
      · obtain ⟨f, taken, rfl⟩ := (Pipeline.setOption_eq_ok_iff split earlier rfl).1 h
        exact .taken split earlier (by rw [Filter.edit, taken]; rfl)

/-! ## Logs

The log of a session, every edit with its answer, tells which steps are left in the end: those
added and not removed later, each with the options that the edits it took give it.
-/

/-- The first ids of a supply are distinct. -/
def IdSupply.Distinct (supply : IdSupply) (count : Nat) : Prop :=
  ∀ i < count, ∀ j < count, supply i = supply j → i = j

abbrev Log := List (Edit × Answer)

namespace Log

def added (log : Log) : List StepId :=
  log.filterMap fun
    | (.add _, .added id) => some id
    | _ => none

def removals (log : Log) : List StepId :=
  log.filterMap fun
    | (.remove id, _) => some id
    | _ => none

/-- The edits of options that the step with an id took, in order. -/
def accepted (log : Log) (id : StepId) : List (Text × OptionValue) :=
  log.filterMap fun
    | (.setOption i key value, .taken) => if i = id then some (key, value) else none
    | _ => none

/-- The steps that were added and not removed later, in order: the id and the tool of each. -/
def survivors : Log → List (StepId × Tool)
  | [] => []
  | (.add tool, .added id) :: later =>
    if id ∈ removals later then survivors later else (id, tool) :: survivors later
  | _ :: later => survivors later

end Log

namespace Pipeline

/-- Carry out edits in order; the log, and the pipeline in the end. -/
def session (supply : IdSupply) : Pipeline → List Edit → Log × Pipeline
  | p, [] => ([], p)
  | p, e :: edits =>
    let (answer, next) := e.perform supply p
    let (log, last) := session supply next edits
    ((e, answer) :: log, last)

end Pipeline

/-- A step that has the id of another one and what the edits in a log make of its options. -/
def Step.Evolved (log : Log) (origin s : Step) : Prop :=
  s.id = origin.id ∧
    (log.accepted origin.id).foldlM (fun f e => f.edit e.1 e.2) origin.filter = .ok s.filter

/-- The steps that a log leaves of some steps and of those it adds, as they were in the
beginning. -/
def Log.origins (templates : Templates) (steps : List Step) (log : Log) : List Step :=
  steps.filter (·.id ∉ log.removals) ++
    log.survivors.map fun entry => ⟨entry.1, templates.filter entry.2⟩

theorem Log.survivors_sublist (log : Log) : (log.survivors.map Prod.fst).Sublist log.added := by
  fun_induction Log.survivors log with
  | case1 => exact .slnil
  | case2 tool id later removed ih => exact ih.cons id
  | case3 tool id later kept ih => exact ih.cons_cons id
  | case4 entry later other ih =>
    have passed : Log.added (entry :: later) = Log.added later := by
      rcases entry with ⟨_ | _ | _, _ | _ | _ | _⟩ <;> first | rfl | exact (other _ _ rfl).elim
    rwa [passed]

theorem Pipeline.eraseP_eq_filter {steps : List Step} (distinct : (steps.map Step.id).Nodup)
    (id : StepId) : steps.eraseP (·.id = id) = steps.filter (·.id ≠ id) := by
  rcases absent_or_first id steps with absent | ⟨before, s, after, rfl, earlier, rfl⟩
  · rw [List.eraseP_of_forall_not (by simpa using absent),
      List.filter_eq_self.2 (by simpa using absent)]
  · have others := ne_of_distinct distinct
    rw [eraseP_append earlier, List.filter_append, List.filter_cons_of_neg (by simp),
      ← List.filter_append, List.filter_eq_self.2 (by simpa using others)]

def Step.assign (id : StepId) (f : Filter) (s : Step) : Step := if s.id = id then ⟨id, f⟩ else s

theorem Step.id_assign (id : StepId) (f : Filter) (s : Step) : (s.assign id f).id = s.id := by
  rw [assign]
  split
  · next found => exact found.symm
  · rfl

theorem Step.assign_of_ne {id : StepId} {s : Step} (h : s.id ≠ id) (f : Filter) :
    s.assign id f = s := if_neg h

namespace Step.Evolved

variable {log : Log} {origin s : Step} {key : Text} {value : OptionValue}

theorem of_ne {id : StepId} (evolved : Evolved log origin s) (ne : origin.id ≠ id) :
    Evolved ((.setOption id key value, .taken) :: log) origin s := by
  have accepted : Log.accepted ((.setOption id key value, .taken) :: log) origin.id =
      log.accepted origin.id := by
    simp [Log.accepted, ne.symm]
  rwa [Evolved, accepted]

theorem of_assign {f : Filter} (evolved : Evolved log (origin.assign origin.id f) s)
    (taken : origin.filter.edit key value = .ok f) :
    Evolved ((.setOption origin.id key value, .taken) :: log) origin s := by
  have accepted : Log.accepted ((.setOption origin.id key value, .taken) :: log) origin.id =
      (key, value) :: log.accepted origin.id := by
    simp [Log.accepted]
  rw [Step.assign, if_pos rfl] at evolved
  rw [Evolved, accepted, List.foldlM_cons, taken]
  exact evolved

end Step.Evolved

theorem Pipeline.map_assign {before after : List Step} {s : Step}
    (distinct : ((before ++ s :: after).map Step.id).Nodup) (f : Filter) :
    (before ++ s :: after).map (Step.assign s.id f) = before ++ ⟨s.id, f⟩ :: after := by
  have others := ne_of_distinct distinct
  rw [List.forall_mem_append] at others
  have kept {steps : List Step} (h : ∀ t ∈ steps, t.id ≠ s.id) :
      steps.map (Step.assign s.id f) = steps :=
    (List.map_congr_left fun t mem => Step.assign_of_ne (h t mem) f).trans (List.map_id' steps)
  rw [List.map_append, List.map_cons, kept others.1, kept others.2, Step.assign, if_pos rfl]

theorem Log.origins_map_assign {log : Log} {id : StepId} (h : id ∉ log.added)
    (templates : Templates) (f : Filter) (steps : List Step) :
    log.origins templates (steps.map (Step.assign id f)) =
      (log.origins templates steps).map (Step.assign id f) := by
  have fresh : ∀ entry ∈ log.survivors, (entry.1 : StepId) ≠ id := by
    rintro entry mem rfl
    exact h (log.survivors_sublist.subset (List.mem_map_of_mem mem))
  rw [origins, origins, List.map_append, List.filter_map, List.map_map]
  congr 1
  · simp only [Function.comp_def, Step.id_assign]
  · exact List.map_congr_left fun entry mem => (Step.assign_of_ne (fresh entry mem) f).symm

namespace Edit.Outcome

variable {supply : IdSupply} {p next : Pipeline} {e : Edit} {answer : Answer} {log : Log}
  {last : List Step}

theorem templates_eq (h : Outcome supply p e answer next) : next.templates = p.templates := by
  cases h <;> rfl

theorem issued_le (h : Outcome supply p e answer next) : p.issued ≤ next.issued := by
  cases h with
  | added tool => exact Nat.le_succ p.issued
  | removed id => exact Nat.le_refl _
  | taken split earlier taken => exact Nat.le_refl _
  | refused h => exact Nat.le_refl _

theorem issued_cases (h : Outcome supply p e answer next) :
    (next.issued = p.issued ∧ Log.added ((e, answer) :: log) = log.added) ∨
      (next.issued = p.issued + 1 ∧
        Log.added ((e, answer) :: log) = supply p.issued :: log.added) := by
  cases h with
  | added tool => exact .inr ⟨rfl, rfl⟩
  | removed id => exact .inl ⟨rfl, rfl⟩
  | taken split earlier taken => exact .inl ⟨rfl, rfl⟩
  | refused h => exact .inl ⟨rfl, rfl⟩

/-- The ids at hand and those to come are among the ones before an edit, in the same order. -/
theorem ids_sublist (h : Outcome supply p e answer next) :
    (next.steps.map Step.id ++ log.added).Sublist
      (p.steps.map Step.id ++ Log.added ((e, answer) :: log)) := by
  cases h with
  | added tool => simp [Log.added]
  | removed id => exact (List.eraseP_sublist.map Step.id).append_right _
  | taken split earlier taken => simp [split, Log.added]
  | refused h => exact .refl _

/-- What the rest of a session makes of the steps behind an edit, the whole makes of those in front
of it. -/
theorem forall₂_evolved (h : Outcome supply p e answer next)
    (distinct : (p.steps.map Step.id ++ Log.added ((e, answer) :: log)).Nodup)
    (rest : List.Forall₂ (Step.Evolved log) (log.origins p.templates next.steps) last) :
    List.Forall₂ (Step.Evolved ((e, answer) :: log))
      (Log.origins p.templates p.steps ((e, answer) :: log)) last := by
  have own := (List.nodup_append.1 distinct).1
  cases h with
  | added tool =>
    have same : Log.origins p.templates p.steps ((.add tool, .added (supply p.issued)) :: log) =
        log.origins p.templates
          (p.steps ++ [⟨supply p.issued, p.templates.filter tool⟩]) := by
      have removals : Log.removals ((.add tool, .added (supply p.issued)) :: log) = log.removals :=
        rfl
      by_cases removed : supply p.issued ∈ log.removals <;>
        simp [Log.origins, Log.survivors, removals, removed]
    rw [same]
    exact rest
  | removed id =>
    have same : Log.origins p.templates p.steps ((.remove id, .removed (p.step? id)) :: log) =
        log.origins p.templates (p.steps.eraseP (·.id = id)) := by
      have removals : Log.removals ((.remove id, .removed (p.step? id)) :: log) =
          id :: log.removals := rfl
      simp [Log.origins, Log.survivors, removals, Pipeline.eraseP_eq_filter own, Bool.and_comm]
    rw [same]
    exact rest
  | @taken before after s key value f split earlier taken =>
    rw [split] at distinct own ⊢
    -- The rest of the session starts from the edited step. Its log speaks of that step alone, since
    -- no other step at hand and no step added later has the id.
    have fresh : s.id ∉ log.added := fun mem =>
      (List.nodup_append.1 distinct).2.2 s.id (by simp) s.id mem rfl
    have only : ∀ origin ∈ log.origins p.templates (before ++ s :: after), origin.id = s.id →
        origin = s := by
      intro origin mem same
      rcases List.mem_append.1 mem with mem | mem
      · exact List.inj_on_of_nodup_map own (List.mem_of_mem_filter mem) (by simp) same
      · obtain ⟨entry, among, rfl⟩ := List.mem_map.1 mem
        exact absurd (same ▸ log.survivors_sublist.subset (List.mem_map_of_mem among)) fresh
    rw [← Pipeline.map_assign own, Log.origins_map_assign fresh, List.forall₂_map_left_iff] at rest
    refine List.Forall₂.imp ?_ ((List.forall₂_and_left _ _).2 ⟨only, rest⟩)
    rintro origin s' ⟨same, evolved⟩
    by_cases found : origin.id = s.id
    · obtain rfl := same found
      exact evolved.of_assign taken
    · rw [Step.assign_of_ne found] at evolved
      exact evolved.of_ne found
  | refused h => exact rest

end Edit.Outcome

namespace Pipeline

variable {supply : IdSupply}

theorem edits_session (supply : IdSupply) (p : Pipeline) (edits : List Edit) :
    (session supply p edits).1.map Prod.fst = edits := by
  induction edits generalizing p with
  | nil => rfl
  | cons e edits ih => exact congrArg (e :: ·) (ih (e.perform supply p).2)

theorem added_session (supply : IdSupply) (p : Pipeline) (edits : List Edit) :
    ∃ n, (session supply p edits).2.issued = p.issued + n ∧
      (session supply p edits).1.added = (List.range' p.issued n).map supply := by
  induction edits generalizing p with
  | nil => exact ⟨0, rfl, rfl⟩
  | cons e edits ih =>
    obtain ⟨n, issued, added⟩ := ih (e.perform supply p).2
    rcases (e.outcome_perform supply p).issued_cases with ⟨next, first⟩ | ⟨next, first⟩
    · rw [next] at issued added
      exact ⟨n, issued, first.trans added⟩
    · rw [next] at issued added
      refine ⟨n + 1, issued.trans (by omega), ?_⟩
      rw [List.range'_succ, List.map_cons, ← added]
      exact first

theorem forall₂_session (p : Pipeline) (edits : List Edit)
    (distinct : (p.steps.map Step.id ++ (session supply p edits).1.added).Nodup) :
    List.Forall₂ (Step.Evolved (session supply p edits).1)
      ((session supply p edits).1.origins p.templates p.steps) (session supply p edits).2.steps := by
  induction edits generalizing p with
  | nil =>
    have all : Log.origins p.templates p.steps [] = p.steps := by
      simp [Log.origins, Log.survivors, Log.removals]
    rw [session, all]
    exact List.forall₂_same.2 fun s _ => ⟨rfl, rfl⟩
  | cons e edits ih =>
    have outcome := e.outcome_perform supply p
    have rest := ih _ (distinct.sublist outcome.ids_sublist)
    rw [outcome.templates_eq] at rest
    exact outcome.forall₂_evolved distinct rest

theorem added_empty (templates : Templates) (edits : List Edit)
    (distinct : supply.Distinct (session supply (empty templates) edits).2.issued) :
    (session supply (empty templates) edits).1.added.Nodup := by
  obtain ⟨n, issued, added⟩ := added_session supply (empty templates) edits
  rw [issued] at distinct
  rw [added]
  refine List.Nodup.map_on (fun i hi j hj => distinct i ?_ j ?_) List.nodup_range'
  · simpa [empty] using hi
  · simpa [empty] using hj

/-- What a session leaves: when the ids that it hands out are distinct, the steps in the end are
those that were added and not removed later, in order, each with its id, its tool, and the options
that the edits it took give it. Each of them is what its removal answers, and no other removal
answers a step. -/
theorem session_faithful (supply : IdSupply) (templates : Templates) (edits : List Edit)
    (distinct : supply.Distinct (session supply (empty templates) edits).2.issued) :
    let (log, last) := session supply (empty templates) edits
    log.map Prod.fst = edits ∧
      last.steps.map Step.id = log.survivors.map Prod.fst ∧ (last.steps.map Step.id).Nodup ∧
      List.Forall₂ (fun entry s => s.id = entry.1 ∧ s.tool = entry.2 ∧
        (log.accepted entry.1).foldlM (fun f e => f.edit e.1 e.2) (templates.filter entry.2) =
          .ok s.filter) log.survivors last.steps ∧
      (∀ s ∈ last.steps, (last.remove s.id).1 = some s) ∧
      ∀ id, (last.remove id).1 = none ↔ id ∉ last.steps.map Step.id := by
  have fresh := added_empty templates edits distinct
  have run := forall₂_session (empty templates) edits (by simpa [empty] using fresh)
  have complete := edits_session supply (empty templates) edits
  generalize session supply (empty templates) edits = result at fresh run complete
  obtain ⟨log, last⟩ := result
  -- Without steps in the beginning, the steps in the end all come from the log.
  have placed : List.Forall₂ (fun entry s => s.id = entry.1 ∧
      (log.accepted entry.1).foldlM (fun f e => f.edit e.1 e.2) (templates.filter entry.2) =
        .ok s.filter) log.survivors last.steps := by
    simpa [Log.origins, empty, List.forall₂_map_left_iff, Step.Evolved] using run
  have ids : last.steps.map Step.id = log.survivors.map Prod.fst := by
    have aligned : List.Forall₂ Eq (last.steps.map Step.id) (log.survivors.map Prod.fst) := by
      rw [List.forall₂_map_left_iff, List.forall₂_map_right_iff]
      exact placed.flip.imp fun s entry same => same.1
    rwa [List.forall₂_eq_eq_eq] at aligned
  have nodup : (last.steps.map Step.id).Nodup := ids ▸ log.survivors_sublist.nodup fresh
  refine ⟨complete, ids, nodup, placed.imp ?_, fun s mem => step?_of_mem nodup mem,
    fun id => step?_eq_none_iff⟩
  rintro entry s ⟨id, filter⟩
  exact ⟨id, (Filter.tool_foldlM_edit filter).trans (templates.tool_filter entry.2), filter⟩

/-- A session with a removal, an edit that is refused and two that find no step. -/
theorem session_faithful_mixed :
    let supply : IdSupply := fun n => ⟨0, n.toUInt64⟩
    let edits : List Edit := [.add .cut, .add .sort, .setOption ⟨0, 1⟩ ['r'] (.flag true),
      .setOption ⟨0, 1⟩ ['n'] (.flag true), .remove ⟨0, 0⟩, .setOption ⟨0, 0⟩ ['f'] (.text ['2']),
      .remove ⟨0, 0⟩, .add .sort]
    let last := (session supply (empty .default) edits).2
    supply.Distinct last.issued ∧ last.steps.map Step.id = [⟨0, 1⟩, ⟨0, 2⟩] ∧
      (last.remove ⟨0, 0⟩).1 = none := by
  intro supply edits last
  have distinct : supply.Distinct last.issued := by
    show ∀ i < 3, ∀ j < 3, supply i = supply j → i = j
    decide
  obtain ⟨-, ids, -, -, -, absent⟩ := session_faithful supply .default edits distinct
  exact ⟨distinct, ids, (absent ⟨0, 0⟩).2 (by rw [ids]; decide)⟩

end Pipeline

end Pipework
