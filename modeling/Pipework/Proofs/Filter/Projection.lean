import Mathlib.Data.List.Forall2
import Pipework.Proofs.Text.Numerals
import Pipework.Proofs.Text.Parts
import Pipework.Tool.Fields

/-!
Cutting what was cut.

With a delimiter of one character, a line that `cut` makes has a field for each entry of the list,
since no field holds the delimiter (`splitAtText_project`). So a second cut picks among the entries
of the first, and both are one cut with the entries it picks (`apply_twice`).
-/

set_option autoImplicit false
set_option relaxedAutoImplicit false

namespace Pipework.Cut

/-- A delimiter that stands for one character: that character, a spelling of the tab, or nothing
for the comma. -/
def IsSingle (delimiter : Text) : Prop := delimiter.length ≤ 1 ∨ Shell.isTab delimiter = true

/-- What an entry names in a list, with places counted from one, and what stands there instead if it
names nothing. A number that does not fit a machine word names nothing; no list is as long. -/
inductive Names (list : List Text) (absent entry : Text) : Text → Prop
  | member {n : Nat} {t : Text} : Text.Denotes (Text.trim entry) (n + 1) →
      n + 1 < Text.wordBound → list[n]? = some t → Names list absent entry t
  | beyond {n : Nat} : Text.Denotes (Text.trim entry) n → list.length < n →
      Names list absent entry absent
  | large {n : Nat} : Text.Denotes (Text.trim entry) n → Text.wordBound ≤ n →
      Names list absent entry absent
  | other : (∀ n, Text.Denotes (Text.trim entry) n → n = 0) → Names list absent entry absent

/-- What cutting makes of a line: for each entry of the list a part, which is the field of the line
that the entry names, or nothing. -/
def Cuts (o : Cut) (source line : Text) : Prop :=
  ∃ listed fields parts, Text.Parted [','] o.fields listed ∧
    Text.Parted o.separator source fields ∧ Text.Parted o.separator line parts ∧
      List.Forall₂ (Names fields []) listed parts

def named (list : List Text) (absent entry : Text) : Text :=
  ((fieldNumber? entry).bind fun n => list[n - 1]?).getD absent

/-- The field list of two cuts in one: each entry of the second gives way to the entry of the first
that it names, or to zero. -/
def composed (first second : Text) : Text :=
  Text.join [','] ((Text.splitOn ',' second).map (named (Text.splitOn ',' first) ['0']))

theorem IsSingle.exists_separator {o : Cut} (h : IsSingle o.delimiter) :
    ∃ c, o.separator = [c] := by
  obtain ⟨d, fields⟩ := o
  unfold separator
  split
  · exact ⟨'\t', rfl⟩
  · next other =>
    have short : d.length ≤ 1 := h.resolve_right other
    match d, short with
    | [], _ => exact ⟨',', rfl⟩
    | [c], _ => exact ⟨c, rfl⟩

/-! ### Entries and what they name -/

theorem fieldNumber?_eq_some_iff {t : Text} {n : Nat} :
    fieldNumber? t = some n ↔ Text.Denotes (Text.trim t) n ∧ n < Text.wordBound ∧ 0 < n := by
  rw [fieldNumber?, Option.filter_eq_some_iff, Text.readWord?_eq_some_iff, and_assoc,
    decide_eq_true_eq]

theorem names_named (list : List Text) (absent entry : Text) :
    Names list absent entry (named list absent entry) := by
  rw [named]
  cases read : fieldNumber? entry with
  | some n =>
    obtain ⟨value, bound, positive⟩ := fieldNumber?_eq_some_iff.1 read
    obtain ⟨n, rfl⟩ := Nat.exists_eq_succ_of_ne_zero (Nat.ne_of_gt positive)
    rw [Option.bind_some, Nat.succ_sub_one]
    cases found : list[n]? with
    | some t => exact .member value bound found
    | none => exact .beyond value (Nat.lt_succ_of_le (List.getElem?_eq_none_iff.1 found))
  | none =>
    by_cases number : ∃ n, Text.Denotes (Text.trim entry) n ∧ n ≠ 0
    · obtain ⟨n, value, positive⟩ := number
      refine .large value (Nat.not_lt.1 fun bound => ?_)
      rw [fieldNumber?_eq_some_iff.2 ⟨value, bound, Nat.pos_of_ne_zero positive⟩] at read
      cases read
    · exact .other (by simpa using number)

theorem forall₂_names (list : List Text) (absent : Text) (entries : List Text) :
    List.Forall₂ (Names list absent) entries (entries.map (named list absent)) := by
  rw [List.forall₂_map_right_iff, List.forall₂_same]
  exact fun entry _ => names_named list absent entry

theorem named_mem_or (list : List Text) (absent entry : Text) :
    named list absent entry ∈ list ∨ named list absent entry = absent := by
  rw [named]
  cases place : (fieldNumber? entry).bind fun n => list[n - 1]? with
  | none => exact .inr rfl
  | some t =>
    obtain ⟨n, -, found⟩ := Option.bind_eq_some_iff.1 place
    exact .inl (List.mem_of_getElem? found)

theorem forall_mem_map_named {P : Text → Prop} {list : List Text} {absent : Text}
    (members : ∀ t ∈ list, P t) (instead : P absent) (entries : List Text) :
    ∀ t ∈ entries.map (named list absent), P t := by
  refine List.forall_mem_map.2 fun entry _ => ?_
  rcases named_mem_or list absent entry with among | none
  · exact members _ among
  · rwa [none]

/-- An entry names among the fields of the first cut what the entry that stands for it names among
the fields of the line. -/
theorem named_named (fields entries : List Text) (entry : Text) :
    named (entries.map (named fields [])) [] entry =
      named fields [] (named entries ['0'] entry) := by
  have zero : named fields [] ['0'] = [] := rfl
  rw [named, named.eq_def entries]
  cases fieldNumber? entry with
  | none => exact zero.symm
  | some n => cases found : entries[n - 1]? <;> simp [found, zero]

/-! ### The fields of a line that was cut -/

theorem project_eq_join (o : Cut) (line : Text) :
    project o.separator o.entries line = Text.join o.separator
      ((Text.splitOn ',' o.fields).map (named (Text.splitAtText o.separator line) [])) := by
  rw [project, entries, List.map_map]
  rfl

/-- The fields of a line that was cut are those that the entries name. -/
theorem splitAtText_project {o : Cut} (single : IsSingle o.delimiter) (line : Text) :
    Text.splitAtText o.separator (project o.separator o.entries line) =
      (Text.splitOn ',' o.fields).map (named (Text.splitAtText o.separator line) []) := by
  obtain ⟨c, is⟩ := single.exists_separator
  rw [project_eq_join, is, ← Text.splitOn_eq_splitAtText, ← Text.splitOn_eq_splitAtText]
  refine Text.splitOn_join (by simpa using Text.splitOn_ne_nil ',' o.fields) ?_
  exact forall_mem_map_named (fun _ field => Text.not_mem_of_mem_splitOn field) (by simp) _

theorem cuts_project {o : Cut} (single : IsSingle o.delimiter) (line : Text) :
    o.Cuts line (project o.separator o.entries line) := by
  have parted (t : Text) : Text.Parted o.separator t (Text.splitAtText o.separator t) := by
    obtain ⟨c, is⟩ := single.exists_separator
    exact (Text.parted_iff (by simp [is])).2 rfl
  refine ⟨_, _, _, (Text.parted_iff (by simp)).2 rfl, parted line, parted _, ?_⟩
  rw [splitAtText_project single, ← Text.splitOn_eq_splitAtText]
  exact forall₂_names _ [] _

theorem Cuts.exists_parts {o : Cut} {source line : Text} (h : o.Cuts source line) :
    ∃ listed parts, Text.Parted [','] o.fields listed ∧ Text.Parted o.separator line parts ∧
      parts.length = listed.length := by
  obtain ⟨listed, fields, parts, list, -, cut, names⟩ := h
  exact ⟨listed, parts, list, cut, names.length_eq.symm⟩

theorem splitOn_composed (first second : Text) :
    Text.splitOn ',' (composed first second) =
      (Text.splitOn ',' second).map (named (Text.splitOn ',' first) ['0']) := by
  refine Text.splitOn_join (by simpa using Text.splitOn_ne_nil ',' second) ?_
  exact forall_mem_map_named (fun _ entry => Text.not_mem_of_mem_splitOn entry) (by decide) _

theorem project_project {d : Text} (single : IsSingle d) (first second line : Text) :
    project (⟨d, second⟩ : Cut).separator (⟨d, second⟩ : Cut).entries
        (project (⟨d, first⟩ : Cut).separator (⟨d, first⟩ : Cut).entries line) =
      project (⟨d, first⟩ : Cut).separator (⟨d, composed first second⟩ : Cut).entries line := by
  have same (fields : Text) : (⟨d, fields⟩ : Cut).separator = (⟨d, first⟩ : Cut).separator := rfl
  rw [project_eq_join, same second, splitAtText_project (o := ⟨d, first⟩) single,
    ← same (composed first second), project_eq_join, splitOn_composed, List.map_map]
  congr 1
  exact List.map_congr_left fun entry _ => named_named _ _ entry

/-- With a delimiter of one character, cutting by one list and then by another is cutting by the
list in which each entry of the second gives way to the entry of the first that it names, or to
zero. Every line is cut to the fields that the entries name, and has as many parts as the list has
entries. -/
theorem apply_twice {d : Text} (single : IsSingle d) (first second : Text) :
    (List.Forall₂ (Names (Text.splitOn ',' first) ['0']) (Text.splitOn ',' second)
        (Text.splitOn ',' (composed first second)) ∧
      ∀ lines, (⟨d, second⟩ : Cut).apply ((⟨d, first⟩ : Cut).apply lines) =
        (⟨d, composed first second⟩ : Cut).apply lines) ∧
      ∀ lines, List.Forall₂ (⟨d, first⟩ : Cut).Cuts lines ((⟨d, first⟩ : Cut).apply lines) ∧
        ∀ line ∈ (⟨d, first⟩ : Cut).apply lines, ∃ listed parts,
          Text.Parted [','] first listed ∧ Text.Parted (⟨d, first⟩ : Cut).separator line parts ∧
            parts.length = listed.length := by
  have cuts (source : Text) := cuts_project (o := ⟨d, first⟩) single source
  refine ⟨⟨?_, fun lines => ?_⟩, fun lines => ⟨?_, fun line made => ?_⟩⟩
  · rw [splitOn_composed]
    exact forall₂_names _ ['0'] _
  · rw [apply, apply, apply, List.map_map]
    exact List.map_congr_left fun line _ => project_project single first second line
  · rw [apply, List.forall₂_map_right_iff, List.forall₂_same]
    exact fun source _ => cuts source
  · obtain ⟨source, -, rfl⟩ := List.mem_map.1 made
    exact (cuts source).exists_parts

/-- A tab by its spelling, and entries that are signed, repeated, no numbers or out of range. -/
theorem apply_twice_spelled :
    IsSingle "\\t".toList ∧ composed " 2,x,,1".toList "4, +1 ,4,9,y".toList = "1, 2,1,0,0".toList ∧
      (⟨"\\t".toList, "4, +1 ,4,9,y".toList⟩ : Cut).apply
          ((⟨"\\t".toList, " 2,x,,1".toList⟩ : Cut).apply ["p\tq".toList, []]) =
        (⟨"\\t".toList, "1, 2,1,0,0".toList⟩ : Cut).apply ["p\tq".toList, []] := by
  have single : IsSingle "\\t".toList := .inr rfl
  obtain ⟨⟨-, once⟩, -⟩ := apply_twice single " 2,x,,1".toList "4, +1 ,4,9,y".toList
  have list : composed " 2,x,,1".toList "4, +1 ,4,9,y".toList = "1, 2,1,0,0".toList := by decide
  exact ⟨single, list, list ▸ once ["p\tq".toList, []]⟩

-- a longer delimiter may come about where two fields meet
example : (⟨"aa".toList, ['1']⟩ : Cut).apply ((⟨"aa".toList, "2,1".toList⟩ : Cut).apply
    ["aaa".toList]) = [[]] ∧
      (⟨"aa".toList, ['2']⟩ : Cut).apply ["aaa".toList] = [['a']] := by decide

end Pipework.Cut
