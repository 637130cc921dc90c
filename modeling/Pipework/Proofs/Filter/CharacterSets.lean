import Mathlib.Data.List.Forall2
import Pipework.Proofs.Filter.Lines

/-!
What `tr` does with the characters of its sets.

Deleting takes away the characters of the first set and no other. Squeezing cuts every run of one
of them down to a single character. Substituting replaces each character by itself, after its first
place in the first set, and is undone by exchanging the sets if these are as long as each other and
name no character twice (`change_by_mode`).
-/

set_option autoImplicit false
set_option relaxedAutoImplicit false

namespace Pipework.Tr

variable {set set1 set2 : Text}

/-! ### Squeezing -/

def squeezedRun (set : Text) (run : Char × Nat) : Char × Nat :=
  (run.1, if run.1 ∈ set then 1 else run.2)

theorem squeezeFrom_replicate (a : Char) (n : Nat) (rest : Text) :
    squeezeFrom set (some a) (List.replicate n a ++ rest) =
      List.replicate (if a ∈ set then 0 else n) a ++ squeezeFrom set (some a) rest := by
  induction n with
  | zero => simp
  | succ n ih =>
    rw [List.replicate_succ, List.cons_append, squeezeFrom]
    by_cases member : a ∈ set
    · simpa [member] using ih
    · simpa [member, List.replicate_succ] using ih

theorem squeezeFrom_run {before : Option Char} {a : Char} {n : Nat} (positive : 0 < n)
    (other : before ≠ some a) (rest : Text) :
    squeezeFrom set before (List.replicate n a ++ rest) =
      List.replicate (if a ∈ set then 1 else n) a ++ squeezeFrom set (some a) rest := by
  obtain ⟨m, rfl⟩ := Nat.exists_eq_succ_of_ne_zero (Nat.ne_of_gt positive)
  rw [Nat.succ_eq_add_one, List.replicate_succ, List.cons_append, squeezeFrom,
    if_neg (fun same => other same.1), squeezeFrom_replicate]
  by_cases member : a ∈ set
  · simp [member]
  · simp [member, List.replicate_succ]

theorem runLengths_squeezeFrom {runs : List (Char × Nat)} {line : Text}
    (h : RunLengths runs line) {before : Option Char}
    (other : line.head? = none ∨ line.head? ≠ before) :
    RunLengths (runs.map (squeezedRun set)) (squeezeFrom set before line) := by
  induction h generalizing before with
  | nil => exact .nil
  | @run a n runs rest positive apart behind ih =>
    rw [(RunLengths.run positive apart behind).head?_eq] at other
    have fresh : before ≠ some a := fun same => by simp [same] at other
    have follows := ih (.inr apart)
    rw [squeezeFrom_run positive fresh]
    refine .run ?_ ?_ follows
    · split
      · exact Nat.one_pos
      · exact positive
    · -- squeezing keeps the members of the runs
      rw [behind.head?_eq] at apart
      simpa [follows.head?_eq, squeezedRun, Function.comp_def] using apart

theorem runLengths_squeezeRuns {runs : List (Char × Nat)} {line : Text}
    (h : RunLengths runs line) :
    RunLengths (runs.map (squeezedRun set)) (squeezeRuns set line) := by
  refine runLengths_squeezeFrom h ?_
  cases line <;> simp

theorem isChain_squeezeRuns (line : Text) :
    (squeezeRuns set line).IsChain fun a b => a = b → a ∉ set := by
  obtain ⟨runs, h⟩ := exists_runLengths line
  refine (runLengths_squeezeRuns h).isChain fun r hr member => ?_
  obtain ⟨run, -, rfl⟩ := List.mem_map.1 hr
  exact if_pos member

theorem squeezeRuns_squeezeRuns (line : Text) :
    squeezeRuns set (squeezeRuns set line) = squeezeRuns set line := by
  obtain ⟨runs, h⟩ := exists_runLengths line
  have once : RunLengths (runs.map (squeezedRun set)) (squeezeRuns set line) :=
    runLengths_squeezeRuns h
  have twice : RunLengths ((runs.map (squeezedRun set)).map (squeezedRun set))
      (squeezeRuns set (squeezeRuns set line)) := runLengths_squeezeRuns once
  have same : (runs.map (squeezedRun set)).map (squeezedRun set) =
      runs.map (squeezedRun set) := by
    rw [List.map_map]
    refine List.map_congr_left fun run _ => ?_
    simp only [Function.comp_apply, squeezedRun]
    split <;> rfl
  rw [same] at twice
  exact twice.unique once

/-! ### Substituting -/

/-- What a character becomes, after its first place in the first set. -/
inductive Becomes (set1 set2 : Text) (c : Char) : Text → Prop
  | kept : c ∉ set1 → Becomes set1 set2 c [c]
  | replaced {before after : Text} {d : Char} :
      set1 = before ++ c :: after → c ∉ before → set2[before.length]? = some d →
      Becomes set1 set2 c [d]
  | dropped {before after : Text} :
      set1 = before ++ c :: after → c ∉ before → set2.length ≤ before.length →
      Becomes set1 set2 c []

theorem substitute_of_not_mem {c : Char} (h : c ∉ set1) : substitute set1 set2 c = some c := by
  rw [substitute, List.idxOf?_eq_none_iff.2 h]

theorem substitute_of_first {before after : Text} {c : Char} (place : set1 = before ++ c :: after)
    (first : c ∉ before) : substitute set1 set2 c = set2[before.length]? := by
  have found : set1.idxOf? c = some before.length := by
    subst place
    refine List.idxOf?_eq_some_iff.2 ⟨by simp, by simp, fun j hj same => first ?_⟩
    rw [List.getElem_append_left hj] at same
    exact same ▸ List.getElem_mem hj
  rw [substitute, found]

theorem becomes_iff {c : Char} {t : Text} :
    Becomes set1 set2 c t ↔ (substitute set1 set2 c).toList = t := by
  constructor
  · intro h
    cases h with
    | kept absent => rw [substitute_of_not_mem absent]; rfl
    | replaced place first found => rw [substitute_of_first place first, found]; rfl
    | dropped place first short =>
      rw [substitute_of_first place first, List.getElem?_eq_none short]
      rfl
  · rintro rfl
    by_cases member : c ∈ set1
    · obtain ⟨before, after, place, first⟩ := List.eq_append_cons_of_mem member
      rw [substitute_of_first place first]
      cases found : set2[before.length]? with
      | some d => exact .replaced place first found
      | none => exact .dropped place first (List.getElem?_eq_none_iff.1 found)
    · rw [substitute_of_not_mem member]
      exact .kept member

theorem substituteAll_eq_iff {line out : Text} :
    substituteAll set1 set2 line = out ↔
      ∃ parts, List.Forall₂ (Becomes set1 set2) line parts ∧ parts.flatten = out := by
  have parts (texts : List Text) :
      List.Forall₂ (Becomes set1 set2) line texts ↔
        line.map (fun c => (substitute set1 set2 c).toList) = texts :=
    forall₂_iff_map_eq fun _ _ _ => becomes_iff
  simp only [parts, exists_eq_left']
  rw [substituteAll, List.filterMap_eq_flatMap_toList, List.flatMap_def]

theorem substitute_of_getElem? (distinct : set1.Nodup) {k : Nat} {c : Char}
    (place : set1[k]? = some c) : substitute set1 set2 c = set2[k]? := by
  obtain ⟨bound, rfl⟩ := List.getElem?_eq_some_iff.1 place
  have found : set1.idxOf? set1[k] = some k := by
    refine List.idxOf?_eq_some_iff.2 ⟨bound, rfl, fun j hj same => Nat.ne_of_lt hj ?_⟩
    exact (List.getElem_inj distinct).1 same
  rw [substitute, found]

theorem substitute_substitute (distinct1 : set1.Nodup) (distinct2 : set2.Nodup)
    (length : set1.length = set2.length) {c : Char} (own : c ∈ set2 → c ∈ set1) :
    (substitute set1 set2 c).bind (substitute set2 set1) = some c := by
  by_cases member : c ∈ set1
  · obtain ⟨k, place⟩ := List.getElem?_of_mem member
    obtain ⟨bound, -⟩ := List.getElem?_eq_some_iff.1 place
    have inside : k < set2.length := length ▸ bound
    have image : set2[k]? = some set2[k] := List.getElem?_eq_getElem inside
    rw [substitute_of_getElem? distinct1 place, image, Option.bind_some,
      substitute_of_getElem? distinct2 image, place]
  · rw [substitute_of_not_mem member, Option.bind_some, substitute_of_not_mem (mt own member)]

theorem substituteAll_substituteAll (distinct1 : set1.Nodup) (distinct2 : set2.Nodup)
    (length : set1.length = set2.length) {line : Text} (own : ∀ c ∈ line, c ∈ set2 → c ∈ set1) :
    substituteAll set2 set1 (substituteAll set1 set2 line) = line := by
  rw [substituteAll, substituteAll, List.filterMap_filterMap]
  calc line.filterMap (fun c => (substitute set1 set2 c).bind (substitute set2 set1))
      = line.filterMap some := List.filterMap_congr fun c hc =>
        substitute_substitute distinct1 distinct2 length (own c hc)
    _ = line := List.filterMap_some

/-! ### The modes -/

theorem count_deleteAll (line : Text) (c : Char) :
    (deleteAll set line).count c = if c ∈ set then 0 else line.count c := by
  rw [deleteAll]
  split
  · next member => exact List.count_eq_zero.2 fun left => by simp [member] at left
  · next other => exact List.count_filter (by simpa using other)

theorem change_of_delete {o : Tr} (h : o.delete = true) (line : Text) :
    o.change line = deleteAll o.set1 line := by
  rw [change, if_pos h]

theorem change_of_squeeze {o : Tr} (kept : o.delete = false) (h : o.squeeze = true)
    (line : Text) : o.change line = squeezeRuns o.set1 line := by
  simp [change, kept, h]

theorem change_of_substitute {o : Tr} (kept : o.delete = false) (loose : o.squeeze = false)
    (line : Text) : o.change line = substituteAll o.set1 o.set2 line := by
  simp [change, kept, loose]

/-- The filter changes every line by itself, whatever the lines are. Deleting leaves the characters
outside the first set, all of them and in their order, whether or not squeezing is asked for as
well. Squeezing makes the runs of the characters in the first set one long and keeps the other runs,
so that no two of these characters are neighbours and squeezing again changes nothing. Otherwise
every character is replaced after its first place in the first set, wherever it stands, and two sets
of one length without repetition are exchanged to undo this for a line that has no character of the
second set alone. -/
theorem change_by_mode (o : Tr) :
    (∀ lines text, (Filter.tr o).apply lines text = .ok (lines.map o.change)) ∧
      (o.delete = true → ∀ line, (o.change line).Sublist line ∧
        ∀ c, (o.change line).count c = if c ∈ o.set1 then 0 else line.count c) ∧
      (o.delete = false → o.squeeze = true → ∀ line,
        (∃ runs, RunLengths runs line ∧
          RunLengths (runs.map (squeezedRun o.set1)) (o.change line)) ∧
          (o.change line).IsChain (fun a b => a = b → a ∉ o.set1) ∧
          o.change (o.change line) = o.change line) ∧
      (o.delete = false → o.squeeze = false →
        (∀ line out, o.change line = out ↔
          ∃ parts, List.Forall₂ (Becomes o.set1 o.set2) line parts ∧ parts.flatten = out) ∧
          (∀ a b, o.change (a ++ b) = o.change a ++ o.change b) ∧
          (o.set1.Nodup → o.set2.Nodup → o.set1.length = o.set2.length →
            ∀ line, (∀ c ∈ line, c ∈ o.set2 → c ∈ o.set1) →
              { o with set1 := o.set2, set2 := o.set1 }.change (o.change line) = line)) := by
  refine ⟨fun lines text => rfl, fun deletes line => ?_, fun kept squeezes line => ?_,
    fun kept loose => ?_⟩
  · rw [change_of_delete deletes]
    exact ⟨List.filter_sublist, count_deleteAll line⟩
  · simp only [change_of_squeeze kept squeezes]
    obtain ⟨runs, h⟩ := exists_runLengths line
    exact ⟨⟨runs, h, runLengths_squeezeRuns h⟩, isChain_squeezeRuns line,
      squeezeRuns_squeezeRuns line⟩
  · have substitutes := change_of_substitute kept loose
    have back := change_of_substitute (o := { o with set1 := o.set2, set2 := o.set1 }) kept loose
    refine ⟨fun line out => ?_, fun a b => ?_, fun distinct1 distinct2 length line own => ?_⟩
    · rw [substitutes, substituteAll_eq_iff]
    · rw [substitutes, substitutes, substitutes]
      exact List.filterMap_append
    · rw [substitutes, back]
      exact substituteAll_substituteAll distinct1 distinct2 length own

/-- Runs in and out of the set next to each other, and sets that name the same characters. -/
theorem change_by_mode_mixed :
    (Filter.tr ⟨"-a".toList, ['b'], true, true⟩).apply ["a--bb-".toList, ['a']] [] =
        .ok ["bb".toList, []] ∧
      ((⟨"-a".toList, ['b'], true, true⟩ : Tr).change "a--bb-".toList).count 'b' = 2 ∧
      (∃ runs, RunLengths runs "aab--b".toList ∧
        RunLengths (runs.map (squeezedRun "-a".toList)) "ab-b".toList) ∧
      (⟨"bca".toList, "abc".toList, false, false⟩ : Tr).change
        ((⟨"abc".toList, "bca".toList, false, false⟩ : Tr).change "cab-b".toList) =
          "cab-b".toList := by
  obtain ⟨lines, deletes, -, -⟩ := change_by_mode ⟨"-a".toList, ['b'], true, true⟩
  obtain ⟨-, -, squeezes, -⟩ := change_by_mode ⟨"-a".toList, [], false, true⟩
  obtain ⟨-, -, -, substitutes⟩ := change_by_mode ⟨"abc".toList, "bca".toList, false, false⟩
  obtain ⟨-, -, exchange⟩ := substitutes rfl rfl
  have own : "bca".toList ⊆ "abc".toList := by simp
  exact ⟨lines ["a--bb-".toList, ['a']] [], (deletes rfl "a--bb-".toList).2 'b',
    (squeezes rfl rfl "aab--b".toList).1,
    exchange (by decide) (by decide) rfl "cab-b".toList fun _ _ member => own member⟩

end Pipework.Tr
