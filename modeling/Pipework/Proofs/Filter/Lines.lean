import Mathlib.Data.List.Perm.Basic
import Pipework.Filter
import Pipework.Proofs.Text.Numerals
import Pipework.Proofs.Text.Parts

/-!
The lines that filters make, and their order.
-/

set_option autoImplicit false
set_option relaxedAutoImplicit false

namespace Pipework

/-! ## Characters of lines

A character of a line that a filter makes was in one of the lines it saw, or it belongs to a text
that the filter writes: the delimiter of `cut`, the second set of `tr`, the blank of `awk`, the
numbers and tabs of `wc`. So a filter whose own texts hold no line feed keeps every line one line
(`oneLine_apply`).
-/

namespace Cut

theorem mem_of_mem_project {separator line : Text} {entries : List (Option Nat)} {c : Char}
    (h : c ∈ project separator entries line) : c ∈ separator ∨ c ∈ line := by
  refine (Text.mem_of_mem_join h).imp_right fun inside => ?_
  obtain ⟨part, hpart, hc⟩ := List.mem_flatten.1 inside
  obtain ⟨entry, -, rfl⟩ := List.mem_map.1 hpart
  rw [pick] at hc
  cases named : entry.bind fun n => (Text.splitAtText separator line)[n - 1]? with
  | none => simp [named] at hc
  | some field =>
    rw [named] at hc
    obtain ⟨n, -, found⟩ := Option.bind_eq_some_iff.1 named
    have among := List.mem_of_getElem? found
    exact (Text.splitAtTextFrom_sublist separator 0 line).subset
      (List.mem_flatten.2 ⟨field, among, hc⟩)

theorem newline_not_mem_separator {o : Cut} (h : '\n' ∉ o.delimiter) : '\n' ∉ o.separator := by
  rw [separator]
  split
  · decide
  · split
    · decide
    · exact h

end Cut

namespace Tr

theorem squeezeFrom_sublist (set : Text) (before : Option Char) (line : Text) :
    (squeezeFrom set before line).Sublist line := by
  fun_induction squeezeFrom set before line with
  | case1 => exact List.Sublist.refl _
  | case2 before c line skip ih => exact ih.cons c
  | case3 before c line keep ih => exact ih.cons_cons c

theorem mem_of_mem_substituteAll {set1 set2 line : Text} {c : Char}
    (h : c ∈ substituteAll set1 set2 line) : c ∈ line ∨ c ∈ set2 := by
  obtain ⟨d, hd, becomes⟩ := List.mem_filterMap.1 h
  rw [substitute] at becomes
  cases place : set1.idxOf? d with
  | none =>
    rw [place] at becomes
    have same : d = c := Option.some.inj becomes
    exact Or.inl (same ▸ hd)
  | some k =>
    rw [place] at becomes
    exact Or.inr (List.mem_of_getElem? becomes)

theorem mem_of_mem_change {o : Tr} {line : Text} {c : Char} (h : c ∈ o.change line) :
    c ∈ line ∨ c ∈ o.set2 := by
  rw [change] at h
  split at h
  · exact Or.inl (List.mem_filter.1 h).1
  · split at h
    · exact Or.inl ((squeezeFrom_sublist o.set1 none line).subset h)
    · exact mem_of_mem_substituteAll h

end Tr

namespace Awk

private theorem mem_of_mem_splitFields {separator line part : Text} {c : Char}
    (hpart : part ∈ splitFields separator line) (hc : c ∈ part) : c ∈ line := by
  rw [splitFields] at hpart
  split at hpart
  · exact (Text.splitWhere_sublist _ line).subset (List.mem_flatten.2 ⟨part, hpart, hc⟩)
  · split at hpart
    · have among := (List.mem_filter.1 hpart).1
      exact (Text.splitWhere_sublist _ line).subset (List.mem_flatten.2 ⟨part, among, hc⟩)
    · exact (Text.splitAtTextFrom_sublist separator 0 line).subset
        (List.mem_flatten.2 ⟨part, hpart, hc⟩)

theorem mem_of_mem_project {separator line : Text} {fields : List (Option Nat)} {c : Char}
    (h : c ∈ project separator fields line) : c = ' ' ∨ c ∈ line := by
  refine (Text.mem_of_mem_join h).imp List.mem_singleton.1 fun inside => ?_
  obtain ⟨part, hpart, hc⟩ := List.mem_flatten.1 inside
  obtain ⟨number, -, rfl⟩ := List.mem_map.1 hpart
  match number with
  | none => cases hc
  | some 0 => exact hc
  | some (n + 1) =>
    rw [field] at hc
    cases named : (splitFields separator line)[n]? with
    | none => simp [named] at hc
    | some part =>
      rw [named] at hc
      exact mem_of_mem_splitFields (List.mem_of_getElem? named) hc

end Awk

theorem Uniq.apply_sublist (lines : List Text) : (apply lines).Sublist lines := by
  fun_induction Uniq.apply lines with
  | case1 b rest ih => exact ih.cons b
  | case2 a b rest apart ih => exact ih.cons_cons a
  | case3 lines => exact List.Sublist.refl _

theorem LineSort.mem_apply {o : LineSort} {lines : List Text} {line : Text} :
    line ∈ o.apply lines ↔ line ∈ lines := by
  rw [apply]
  split <;> simp

theorem Wc.newline_not_mem_apply {o : Wc} {lines : List Text} {text : Text} :
    ∀ line ∈ o.apply lines text, '\n' ∉ line := by
  intro line hline mem
  rw [apply, List.mem_singleton] at hline
  rw [hline] at mem
  rcases Text.mem_of_mem_join mem with tab | inside
  · exact absurd tab (by decide)
  · obtain ⟨number, hnumber, digit⟩ := List.mem_flatten.1 inside
    obtain ⟨n, -, rfl⟩ := List.mem_map.1 hnumber
    exact Text.ne_of_mem_ofNat digit rfl rfl

namespace Filter

/-- No text that the filter writes into lines holds a line feed. -/
def KeepsLines : Filter → Prop
  | .cut o => '\n' ∉ o.delimiter
  | .tr o => '\n' ∉ o.set2
  | _ => True

instance : (f : Filter) → Decidable f.KeepsLines
  | .cut o => inferInstanceAs (Decidable ('\n' ∉ o.delimiter))
  | .tr o => inferInstanceAs (Decidable ('\n' ∉ o.set2))
  | .grep _ | .sort _ | .uniq | .head _ | .tail _ | .wc _ | .awk _ => isTrue trivial

/-- One step: lines without line feeds become lines without line feeds. -/
theorem oneLine_apply {f : Filter} (hf : f.KeepsLines) {lines next : List Text} {text : Text}
    (h : ∀ line ∈ lines, '\n' ∉ line) (made : f.apply lines text = .ok next) :
    ∀ line ∈ next, '\n' ∉ line := by
  have kept : (∀ line ∈ next, line ∈ lines) → ∀ line ∈ next, '\n' ∉ line :=
    fun sub line hline => h line (sub line hline)
  cases f with
  | cut o =>
    cases made
    intro line hline mem
    obtain ⟨source, hsource, rfl⟩ := List.mem_map.1 hline
    rcases Cut.mem_of_mem_project mem with written | read
    · exact Cut.newline_not_mem_separator hf written
    · exact h source hsource read
  | grep o =>
    rw [apply, Grep.apply] at made
    cases compiled : o.compile with
    | error e =>
      rw [compiled] at made
      cases made
    | ok p =>
      rw [compiled] at made
      cases made
      exact kept fun line hline => (List.mem_filter.1 hline).1
  | sort o =>
    cases made
    exact kept fun line hline => LineSort.mem_apply.1 hline
  | uniq =>
    cases made
    exact kept fun line hline => (Uniq.apply_sublist lines).subset hline
  | head o =>
    cases made
    exact kept fun line hline => List.mem_of_mem_take hline
  | tail o =>
    cases made
    exact kept fun line hline => List.mem_of_mem_drop hline
  | tr o =>
    cases made
    intro line hline mem
    obtain ⟨source, hsource, rfl⟩ := List.mem_map.1 hline
    rcases Tr.mem_of_mem_change mem with read | written
    · exact h source hsource read
    · exact hf written
  | wc o =>
    cases made
    exact Wc.newline_not_mem_apply
  | awk o =>
    rw [apply] at made
    cases printed : o.print? lines with
    | none => simp [printed] at made
    | some result =>
      rw [printed] at made
      cases made
      obtain ⟨fields, -, rfl⟩ := Option.map_eq_some_iff.1 printed
      intro line hline mem
      obtain ⟨source, hsource, rfl⟩ := List.mem_map.1 hline
      rcases Awk.mem_of_mem_project mem with blank | read
      · exact absurd blank (by decide)
      · exact h source hsource read

end Filter

/-! ## Order and repetition

Sorting gives the one arrangement of the lines in which no line comes before an earlier one
(`LineSort.eq_apply`), so that it does not depend on how they stood. Dropping repetitions leaves
the member of every run (`Uniq.apply_eq_map`), and of sorted lines it leaves each line once
(`LineSort.pairwise_uniq`).
-/

namespace Uniq

variable {lines : List Text}

theorem apply_run {a : Text} {n : Nat} {rest : List Text} (positive : 0 < n)
    (apart : rest.head? ≠ some a) : apply (List.replicate n a ++ rest) = a :: apply rest := by
  induction n with
  | zero => exact absurd positive (Nat.lt_irrefl 0)
  | succ n ih =>
    cases n with
    | zero =>
      cases rest with
      | nil => rfl
      | cons b rest =>
        have other : a ≠ b := fun same => apart (by rw [same]; rfl)
        exact if_neg other
    | succ n => exact (if_pos rfl).trans (ih n.succ_pos)

theorem apply_eq_map {runs : List (Text × Nat)} (h : RunLengths runs lines) :
    apply lines = runs.map Prod.fst := by
  induction h with
  | nil => rfl
  | run positive apart _ ih => rw [apply_run positive apart, ih, List.map_cons]

theorem runLengths_apply {runs : List (Text × Nat)} (h : RunLengths runs lines) :
    RunLengths (runs.map fun r => (r.1, 1)) (apply lines) := by
  rw [apply_eq_map h]
  induction h with
  | nil => exact .nil
  | @run a n runs rest _ apart behind ih =>
    refine .run Nat.one_pos ?_ ih
    rw [behind.head?_eq] at apart
    simpa using apart

theorem apply_apply (lines : List Text) : apply (apply lines) = apply lines := by
  obtain ⟨runs, h⟩ := exists_runLengths lines
  rw [apply_eq_map (runLengths_apply h), apply_eq_map h, List.map_map]
  rfl

theorem isChain_apply (lines : List Text) : (apply lines).IsChain (· ≠ ·) := by
  obtain ⟨runs, h⟩ := exists_runLengths lines
  have single : ∀ r ∈ runs.map fun r => (r.1, 1), True → r.2 = 1 :=
    List.forall_mem_map.2 fun _ _ _ => rfl
  exact ((runLengths_apply h).isChain single).imp fun a b apart same => apart same trivial

theorem mem_apply {line : Text} : line ∈ apply lines ↔ line ∈ lines := by
  obtain ⟨runs, h⟩ := exists_runLengths lines
  rw [apply_eq_map h, h.mem_iff]

end Uniq

namespace LineSort

variable {o : LineSort}

/-- One line comes before another: by code points, or against them. -/
def Before (o : LineSort) (a b : Text) : Prop :=
  match o.reversed with
  | false => a < b
  | true => b < a

theorem Before.trans {a b c : Text} (hab : o.Before a b) (hbc : o.Before b c) :
    o.Before a c := by
  obtain ⟨_ | _⟩ := o
  · exact List.lt_trans hab hbc
  · exact List.lt_trans hbc hab

instance : Trans o.Before o.Before o.Before := ⟨Before.trans⟩

theorem before_irrefl (a : Text) : ¬ o.Before a a := by
  obtain ⟨_ | _⟩ := o <;> exact List.lt_irrefl a

theorem eq_of_not_before {a b : Text} (hab : ¬ o.Before a b) (hba : ¬ o.Before b a) : a = b := by
  obtain ⟨_ | _⟩ := o
  · exact List.le_antisymm hba hab
  · exact List.le_antisymm hab hba

theorem perm_apply (o : LineSort) (lines : List Text) : (o.apply lines).Perm lines := by
  have sorted := List.mergeSort_perm lines Text.le
  rw [apply]
  split
  · exact (List.reverse_perm _).trans sorted
  · exact sorted

theorem pairwise_apply (o : LineSort) (lines : List Text) :
    (o.apply lines).Pairwise fun a b => ¬ o.Before b a := by
  have sorted := List.pairwise_mergeSort Text.le_trans Text.le_total lines
  simp only [Text.le_iff_not_lt] at sorted
  obtain ⟨_ | _⟩ := o
  · exact sorted
  · exact List.pairwise_reverse.2 sorted

theorem eq_apply {lines sorted : List Text} (ordered : sorted.Pairwise fun a b => ¬ o.Before b a)
    (same : sorted.Perm lines) : sorted = o.apply lines :=
  List.Perm.eq_of_pairwise (fun _ _ _ _ hab hba => eq_of_not_before hba hab) ordered
    (o.pairwise_apply lines) (same.trans (o.perm_apply lines).symm)

theorem apply_of_perm {lines lines' : List Text} (same : lines'.Perm lines) :
    o.apply lines' = o.apply lines :=
  eq_apply (o.pairwise_apply lines') ((o.perm_apply lines').trans same)

theorem apply_filter (p : Text → Bool) (lines : List Text) :
    o.apply (lines.filter p) = (o.apply lines).filter p :=
  (eq_apply ((o.pairwise_apply lines).sublist List.filter_sublist)
    ((o.perm_apply lines).filter p)).symm

theorem pairwise_uniq (o : LineSort) (lines : List Text) :
    (Uniq.apply (o.apply lines)).Pairwise o.Before := by
  have ordered := ((o.pairwise_apply lines).sublist (Uniq.apply_sublist _)).isChain
  have apart := Uniq.isChain_apply (o.apply lines)
  rw [← List.isChain_iff_pairwise]
  rw [List.isChain_iff_forall_rel_of_append_cons_cons] at *
  intro a b before after split
  by_contra unordered
  exact apart split (eq_of_not_before unordered (ordered split))

theorem mem_uniq {line : Text} {lines : List Text} :
    line ∈ Uniq.apply (o.apply lines) ↔ line ∈ lines := by
  rw [Uniq.mem_apply, mem_apply]

theorem nodup_of_pairwise {l : List Text} (h : l.Pairwise o.Before) : l.Nodup := by
  refine h.imp ?_
  rintro a _ before rfl
  exact before_irrefl a before

theorem eq_of_pairwise {l l' : List Text} (h : l.Pairwise o.Before) (h' : l'.Pairwise o.Before)
    (same : ∀ line, line ∈ l ↔ line ∈ l') : l = l' := by
  have perm := (List.perm_ext_iff_of_nodup (nodup_of_pairwise h) (nodup_of_pairwise h')).2 same
  refine perm.eq_of_pairwise (fun a b _ _ hab hba => ?_) h h'
  exact absurd (hab.trans hba) (before_irrefl a)

end LineSort

end Pipework
