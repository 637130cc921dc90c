import Pipework.Proofs.Command.Quotes
import Pipework.Proofs.Pipeline.Session

/-!
Which pipelines name every step by an id of its own.

Steps that are added, read from a command, or replaced without an id get a new one. The ids that a
list of steps brings along are taken as they are. So all ids of every state are distinct exactly
when no list that is taken over names an id twice (`ids_distinct_iff`).
-/

set_option autoImplicit false
set_option relaxedAutoImplicit false

namespace Pipework

inductive Action
  | edit (e : Edit)
  | load (command : Text)
  | replace (drafts : List Draft)

def Action.run (supply : IdSupply) (p : Pipeline) : Action → Pipeline
  | .edit e => (e.perform supply p).2
  | .load command => p.loadOrKeep supply command
  | .replace drafts => p.replace supply drafts

/-- The ids that a list of steps brings along. -/
def Draft.given (drafts : List Draft) : List StepId := drafts.filterMap Draft.id

namespace Pipeline

/-- The pipeline after actions in order. -/
def after (supply : IdSupply) (p : Pipeline) (actions : List Action) : Pipeline :=
  actions.foldl (Action.run supply) p

/-- Every step is the one that its id finds, that an edit with its id changes, and that a removal
with its id takes out. -/
def Addressed (p : Pipeline) : Prop :=
  ∀ before s rest, p.steps = before ++ s :: rest →
    p.step? s.id = some s ∧
    (∀ key value, p.setOption s.id key value =
      (s.filter.edit key value).map fun f => { p with steps := before ++ ⟨s.id, f⟩ :: rest }) ∧
    p.remove s.id = (some s, { p with steps := before ++ rest })

/-- No two steps have one id, and no id that is still to come is at hand. -/
structure Unique (supply : IdSupply) (count : Nat) (p : Pipeline) : Prop where
  distinct : (p.steps.map Step.id).Nodup
  fresh : ∀ i, p.issued ≤ i → i < count → supply i ∉ p.steps.map Step.id

end Pipeline

namespace Draft

theorem le_settle (supply : IdSupply) (used : Nat) (drafts : List Draft) :
    used ≤ (settle supply used drafts).2 := by
  induction drafts generalizing used with
  | nil => exact Nat.le_refl used
  | cons d drafts ih =>
    rw [settle]
    cases d.id with
    | none => exact (Nat.le_succ used).trans (ih (used + 1))
    | some id => exact ih used

variable {supply : IdSupply}

theorem mem_settle {used : Nat} {drafts : List Draft} {id : StepId}
    (h : id ∈ (settle supply used drafts).1.map Step.id) :
    id ∈ given drafts ∨ ∃ i, used ≤ i ∧ i < (settle supply used drafts).2 ∧ supply i = id := by
  induction drafts generalizing used with
  | nil => cases h
  | cons d drafts ih =>
    rw [settle] at h ⊢
    cases own : d.id with
    | none =>
      simp only [own, List.map_cons, List.mem_cons] at h ⊢
      rcases h with rfl | h
      · exact .inr ⟨used, Nat.le_refl used, le_settle supply (used + 1) drafts, rfl⟩
      · rcases ih h with mem | ⟨i, lower, upper, rfl⟩
        · exact .inl (by simpa [given, own] using mem)
        · exact .inr ⟨i, by omega, upper, rfl⟩
    | some id' =>
      simp only [own, List.map_cons, List.mem_cons] at h ⊢
      rcases h with rfl | h
      · exact .inl (by simp [given, own])
      · exact (ih h).imp_left fun mem => by simp [given, own] at mem ⊢; exact .inr mem

theorem given_sublist (used : Nat) (drafts : List Draft) :
    (given drafts).Sublist ((settle supply used drafts).1.map Step.id) := by
  induction drafts generalizing used with
  | nil => exact .slnil
  | cons d drafts ih =>
    rw [settle]
    cases own : d.id with
    | none => simpa [given, own] using (ih (used + 1)).cons (supply used)
    | some id => simpa [given, own] using (ih used).cons_cons id

theorem nodup_settle {count used : Nat} {drafts : List Draft} (distinct : supply.Distinct count)
    (bound : (settle supply used drafts).2 ≤ count) (apart : ∀ i < count, supply i ∉ given drafts)
    (own : (given drafts).Nodup) : ((settle supply used drafts).1.map Step.id).Nodup := by
  induction drafts generalizing used with
  | nil => exact .nil
  | cons d drafts ih =>
    rw [settle] at bound ⊢
    cases named : d.id with
    | none =>
      have same : given (d :: drafts) = given drafts := by simp [given, named]
      rw [same] at apart own
      simp only [named] at bound ⊢
      refine List.nodup_cons.2 ⟨fun mem => ?_, ih bound apart own⟩
      -- No step behind has the new id: the list does not bring it along, and the ids that are drawn
      -- behind it are further on in the supply.
      have upper := le_settle supply (used + 1) drafts
      rcases mem_settle mem with mem | ⟨i, lower, upper', same⟩
      · exact apart used (by omega) mem
      · have := distinct i (by omega) used (by omega) same
        omega
    | some id =>
      have same : given (d :: drafts) = id :: given drafts := by simp [given, named]
      simp only [same, List.mem_cons, not_or, List.nodup_cons] at apart own
      simp only [named] at bound ⊢
      refine List.nodup_cons.2 ⟨fun mem => ?_, ih bound (fun i lt => (apart i lt).2) own.2⟩
      rcases mem_settle mem with mem | ⟨i, -, upper, same⟩
      · exact own.1 mem
      · exact (apart i (by omega)).1 same

end Draft

namespace Pipeline.Unique

variable {supply : IdSupply} {count : Nat} {p : Pipeline}

theorem replace {drafts : List Draft} (distinct : supply.Distinct count)
    (bound : (p.replace supply drafts).issued ≤ count)
    (apart : ∀ i < count, supply i ∉ Draft.given drafts) (own : (Draft.given drafts).Nodup) :
    Unique supply count (p.replace supply drafts) where
  distinct := Draft.nodup_settle distinct bound apart own
  fresh := by
    have last : (Draft.settle supply p.issued drafts).2 = (p.replace supply drafts).issued := rfl
    intro i lower upper mem
    rcases Draft.mem_settle mem with mem | ⟨j, -, upper', same⟩
    · exact apart i upper mem
    · have := distinct j (by omega) i upper same
      omega

theorem load (unique : Unique supply count p) {command : Text} (distinct : supply.Distinct count)
    (bound : (p.loadOrKeep supply command).issued ≤ count) :
    Unique supply count (p.loadOrKeep supply command) := by
  rw [loadOrKeep, Pipeline.load] at bound ⊢
  cases h : Shell.parse command with
  | error e => exact unique
  | ok filters =>
    have none : Draft.given (filters.map fun f => ⟨none, f⟩) = [] := by
      simp [Draft.given]
    rw [h] at bound
    exact replace distinct bound (by simp [none]) (by simp [none])

private theorem sublist {q : Pipeline} (unique : Unique supply count p)
    (ids : (q.steps.map Step.id).Sublist (p.steps.map Step.id)) (issued : p.issued ≤ q.issued) :
    Unique supply count q where
  distinct := unique.distinct.sublist ids
  fresh i lower upper mem := unique.fresh i (issued.trans lower) upper (ids.subset mem)

theorem edit (unique : Unique supply count p) {e : Edit} (distinct : supply.Distinct count)
    (bound : (e.perform supply p).2.issued ≤ count) :
    Unique supply count (e.perform supply p).2 := by
  have outcome := e.outcome_perform supply p
  generalize e.perform supply p = result at outcome bound
  obtain ⟨answer, next⟩ := result
  cases outcome with
  | added tool =>
    have first := unique.fresh p.issued (Nat.le_refl _) bound
    constructor
    · simpa [List.nodup_append, unique.distinct] using first
    · intro i lower upper mem
      rw [List.map_append, List.mem_append] at mem
      rcases mem with mem | mem
      · exact unique.fresh i (Nat.le_of_succ_le lower) upper mem
      · exact absurd (distinct i upper p.issued bound (by simpa using mem)) (Nat.ne_of_gt lower)
  | removed id => exact unique.sublist (List.eraseP_sublist.map Step.id) (Nat.le_refl _)
  | taken split earlier taken => exact unique.sublist (by simp [split]) (Nat.le_refl _)
  | refused h => exact unique

end Pipeline.Unique

namespace Pipeline

variable {supply : IdSupply} {count : Nat}

/-- Pipelines with distinct ids leave no step out of reach. -/
theorem addressed_of_distinct {p : Pipeline} (distinct : (p.steps.map Step.id).Nodup) :
    p.Addressed := by
  intro before s rest split
  rw [split] at distinct
  have earlier : ∀ t ∈ before, t.id ≠ s.id := fun t mem =>
    ne_of_distinct distinct t (List.mem_append_left rest mem)
  refine ⟨step?_append split earlier, fun key value => setOption_append split earlier rfl, ?_⟩
  rw [remove, step?_append split earlier, split, eraseP_append earlier]

theorem issued_le_run (p : Pipeline) (a : Action) : p.issued ≤ (a.run supply p).issued := by
  cases a with
  | edit e => exact (e.outcome_perform supply p).issued_le
  | load command =>
    rw [Action.run, loadOrKeep, load]
    cases Shell.parse command with
    | error e => exact Nat.le_refl _
    | ok filters => exact Draft.le_settle _ _ _
  | replace drafts => exact Draft.le_settle _ _ _

theorem issued_le_after (p : Pipeline) (actions : List Action) :
    p.issued ≤ (p.after supply actions).issued := by
  induction actions generalizing p with
  | nil => exact Nat.le_refl _
  | cons a actions ih => exact (issued_le_run p a).trans (ih _)

theorem after_append (p : Pipeline) (first second : List Action) :
    p.after supply (first ++ second) = (p.after supply first).after supply second :=
  List.foldl_append

/-- Ids stay unique along actions, as long as no list that is taken over names an id twice. -/
theorem Unique.after {p : Pipeline} (unique : Unique supply count p) {actions : List Action}
    (distinct : supply.Distinct count) (bound : (p.after supply actions).issued ≤ count)
    (apart : ∀ drafts, .replace drafts ∈ actions → ∀ i < count, supply i ∉ Draft.given drafts)
    (own : ∀ drafts, .replace drafts ∈ actions → (Draft.given drafts).Nodup) :
    Unique supply count (p.after supply actions) := by
  induction actions generalizing p with
  | nil => exact unique
  | cons a actions ih =>
    have upper : (a.run supply p).issued ≤ count := (issued_le_after _ actions).trans bound
    refine ih ?_ bound (fun drafts mem => apart drafts (.tail a mem))
      fun drafts mem => own drafts (.tail a mem)
    cases a with
    | edit e => exact unique.edit distinct upper
    | load command => exact unique.load distinct upper
    | replace drafts =>
      exact .replace distinct upper (apart drafts (.head actions)) (own drafts (.head actions))

theorem unique_empty (templates : Templates) : Unique supply count (empty templates) :=
  ⟨.nil, fun _ _ _ => List.not_mem_nil⟩

/-- Along a run, all pipelines have distinct ids exactly when no list that is taken over names an id
twice; then every step of every pipeline is addressed by its id. Ids from the supply are taken to be
distinct, and different from those that the lists name. -/
theorem ids_distinct_iff (supply : IdSupply) (templates : Templates) (actions : List Action)
    (distinct : supply.Distinct ((empty templates).after supply actions).issued)
    (apart : ∀ drafts, .replace drafts ∈ actions →
      ∀ i < ((empty templates).after supply actions).issued, supply i ∉ Draft.given drafts) :
    ((∀ run, run <+: actions → (((empty templates).after supply run).steps.map Step.id).Nodup) ↔
        ∀ drafts, .replace drafts ∈ actions → (Draft.given drafts).Nodup) ∧
      ((∀ drafts, .replace drafts ∈ actions → (Draft.given drafts).Nodup) →
        ∀ run, run <+: actions → ((empty templates).after supply run).Addressed) := by
  have reached : (∀ drafts, .replace drafts ∈ actions → (Draft.given drafts).Nodup) →
      ∀ run, run <+: actions → (((empty templates).after supply run).steps.map Step.id).Nodup := by
    rintro own run ⟨rest, rfl⟩
    refine ((unique_empty templates).after distinct ?_ ?_ ?_).distinct
    · rw [after_append]
      exact issued_le_after _ rest
    · exact fun drafts mem => apart drafts (List.mem_append_left rest mem)
    · exact fun drafts mem => own drafts (List.mem_append_left rest mem)
  refine ⟨⟨fun nodup drafts mem => ?_, reached⟩, fun own run part =>
    addressed_of_distinct (reached own run part)⟩
  obtain ⟨before, rest, rfl⟩ := List.append_of_mem mem
  have replaced := nodup (before ++ [.replace drafts]) ⟨rest, by simp⟩
  rw [after_append] at replaced
  exact replaced.sublist (Draft.given_sublist _ drafts)

/-- New steps beside two that bring their ids along. -/
theorem ids_distinct_mixed :
    let supply : IdSupply := fun n => ⟨1, n.toUInt64⟩
    let actions : List Action := [.edit (.add .cut),
      .replace [⟨some ⟨0, 7⟩, .uniq⟩, ⟨none, .uniq⟩, ⟨some ⟨0, 8⟩, .uniq⟩], .edit (.add .sort)]
    let last := (empty .default).after supply actions
    supply.Distinct last.issued ∧
      (∀ drafts, .replace drafts ∈ actions → ∀ i < last.issued, supply i ∉ Draft.given drafts) ∧
      (∀ drafts, .replace drafts ∈ actions → (Draft.given drafts).Nodup) ∧
      (last.steps.map Step.id).Nodup ∧ last.Addressed := by
  intro supply actions last
  have own : ∀ drafts, .replace drafts ∈ actions → (Draft.given drafts).Nodup := by
    simp [actions, Draft.given]
  have distinct : supply.Distinct last.issued := by
    show ∀ i < 3, ∀ j < 3, supply i = supply j → i = j
    decide
  have apart : ∀ drafts, .replace drafts ∈ actions →
      ∀ i < last.issued, supply i ∉ Draft.given drafts := by
    simp [actions, Draft.given, supply]
  obtain ⟨nodup, addressed⟩ := ids_distinct_iff supply .default actions distinct apart
  exact ⟨distinct, apart, own, nodup.2 own actions (List.prefix_refl _),
    addressed own actions (List.prefix_refl _)⟩

/-- Two steps of a list that bring the same number along: the second is out of reach. -/
theorem ids_repeated_by_replace :
    let supply : IdSupply := fun n => ⟨1, n.toUInt64⟩
    let value : Json := .array
      [.object [("id".toList, .number (.whole 42)), ("type".toList, .string "sort".toList)],
        .object [("id".toList, .number (.whole 42)), ("type".toList, .string "uniq".toList)]]
    ∃ drafts, Decode.drafts value = .ok drafts ∧
      let last := (empty .default).after supply [.replace drafts]
      supply.Distinct last.issued ∧ (∀ i < last.issued, supply i ∉ Draft.given drafts) ∧
        ¬ (last.steps.map Step.id).Nodup ∧ ¬ last.Addressed := by
  intro supply value
  refine ⟨[⟨some (.ofNumber (.ofInt 42)), .default .sort⟩, ⟨some (.ofNumber (.ofInt 42)), .uniq⟩],
    rfl, ?_, ?_, ?_, ?_⟩
  · show ∀ i < 0, _
    omega
  · show ∀ i < 0, _
    omega
  · show ¬ [_, _].Nodup
    simp
  · intro addressed
    have found := (addressed [⟨.ofNumber (.ofInt 42), .default .sort⟩] _ [] rfl).1
    simp only [step?, after, Action.run, Pipeline.replace, Draft.settle, List.foldl_cons,
      List.foldl_nil, List.find?_cons, decide_true, Option.some.injEq, Step.mk.injEq, true_and]
      at found
    cases found

end Pipeline

end Pipework
