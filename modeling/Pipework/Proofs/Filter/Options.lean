import Mathlib.Data.List.Nodup
import Mathlib.Tactic.FinCases
import Pipework.Pipeline

/-!
The options of the tools and the order in which they are edited.
-/

set_option autoImplicit false
set_option relaxedAutoImplicit false

namespace Pipework

/-! ## Options

Every tool has a fixed table of options, each a flag or a text, and a filter holds a value for
each option of its tool. A value is taken for an option of its kind. The one exception is the
direction of a match, which also takes a text: one that is not empty becomes the pattern. An edit
that is taken sets its option and leaves the others as they are (`exists_set_eq_ok`).
-/

inductive OptionKind
  | flag
  | text
  deriving DecidableEq, Repr

def OptionValue.kind : OptionValue → OptionKind
  | .flag _ => .flag
  | .text _ => .text

def OptionKind.fault : OptionKind → OptionFault
  | .flag => .expectsFlag
  | .text => .expectsText

namespace Tool

def options : Tool → List (Text × OptionKind)
  | .cut => [(['d'], .text), (['f'], .text)]
  | .grep => [("pattern".toList, .text), (['i'], .flag), (['v'], .flag), (['F'], .flag)]
  | .sort => [(['r'], .flag)]
  | .uniq => []
  | .head => [(['n'], .text)]
  | .tail => [(['n'], .text)]
  | .tr => [("set1".toList, .text), ("set2".toList, .text), (['d'], .flag), (['s'], .flag)]
  | .wc => [(['l'], .flag), (['w'], .flag), (['c'], .flag)]
  | .awk => [(['F'], .text), ("program".toList, .text)]

def kind? (tool : Tool) (key : Text) : Option OptionKind := tool.options.lookup key

/-- The option of `grep` that takes a flag or a text. -/
def TakesBoth (tool : Tool) (key : Text) : Prop := tool = .grep ∧ key = ['v']

instance (tool : Tool) (key : Text) : Decidable (tool.TakesBoth key) :=
  inferInstanceAs (Decidable (_ ∧ _))

/-- A value that an option of a tool takes. -/
def Takes (tool : Tool) (key : Text) (value : OptionValue) : Prop :=
  tool.kind? key = some value.kind ∨ tool.TakesBoth key

/-- The options that an edit sets. A text for the direction of a match sets the pattern too, unless
it is empty. -/
def changes (tool : Tool) (key : Text) (value : OptionValue) : List (Text × OptionValue) :=
  if tool.TakesBoth key then
    match value with
    | .flag b => [(key, .flag b)]
    | .text [] => [(key, .flag false)]
    | .text t => [(key, .flag true), ("pattern".toList, .text t)]
  else [(key, value)]

theorem mem_options {tool : Tool} {key : Text} {kind : OptionKind}
    (h : tool.kind? key = some kind) : (key, kind) ∈ tool.options := by
  obtain ⟨before, after, split, -⟩ := List.lookup_eq_some_iff.1 h
  rw [split]
  exact List.mem_append_right _ List.mem_cons_self

theorem not_mem_keys {tool : Tool} {key : Text} (h : tool.kind? key = none) :
    key ∉ tool.options.map Prod.fst := by
  rintro mem
  obtain ⟨option, among, rfl⟩ := List.mem_map.1 mem
  simpa using List.lookup_eq_none_iff.1 h option among

end Tool

/-- The members of a record with some of them changed. -/
def amend {α : Type} (changes members : List (Text × α)) : List (Text × α) :=
  members.map fun m => (m.1, (changes.lookup m.1).getD m.2)

namespace Filter

/-- A filter holds exactly the options of its tool, each of its kind. -/
theorem map_kind_fields (f : Filter) :
    f.fields.map (fun field => (field.1, field.2.kind)) = f.tool.options := by
  cases f <;> rfl

theorem set_unknown {f : Filter} {key : Text} (h : f.tool.kind? key = none)
    (value : OptionValue) : f.set key value = .error .unknownKey := by
  have absent := Tool.not_mem_keys h
  cases f <;> simp [tool, Tool.options] at absent <;>
    simp [set, Cut.set, Grep.set, LineSort.set, LineCount.set, Tr.set, Wc.set, Awk.set, absent,
      Except.map]

-- A tool has a few options, and every `set` compares keys, so that each option with each shape of
-- a value is a matter of computation.

private theorem set_mismatch_of_mem {f : Filter} {option : Text × OptionKind}
    (mem : option ∈ f.tool.options) {value : OptionValue} (ne : option.2 ≠ value.kind)
    (single : ¬ f.tool.TakesBoth option.1) : f.set option.1 value = .error option.2.fault := by
  cases f <;> simp only [tool, Tool.options] at mem <;> fin_cases mem <;> cases value <;>
    first | rfl | exact absurd rfl ne | exact absurd ⟨rfl, rfl⟩ single

private theorem exists_set_of_mem {f : Filter} {option : Text × OptionKind}
    (mem : option ∈ f.tool.options) {value : OptionValue} (same : option.2 = value.kind) :
    ∃ g, f.set option.1 value = .ok g ∧ g.tool = f.tool ∧
      g.fields = amend (f.tool.changes option.1 value) f.fields := by
  cases f <;> simp only [tool, Tool.options] at mem <;> fin_cases mem <;> cases value <;>
    cases same <;> exact ⟨_, rfl, rfl, rfl⟩

theorem set_mismatch {f : Filter} {key : Text} {kind : OptionKind}
    (h : f.tool.kind? key = some kind) {value : OptionValue} (refused : ¬ f.tool.Takes key value) :
    f.set key value = .error kind.fault := by
  refine set_mismatch_of_mem (Tool.mem_options h) ?_ fun both => refused (.inr both)
  rintro rfl
  exact refused (.inl h)

/-- A value that the option takes sets what the edit changes and leaves the other options. -/
theorem exists_set_eq_ok {f : Filter} {key : Text} {value : OptionValue}
    (h : f.tool.Takes key value) :
    ∃ g, f.set key value = .ok g ∧ g.tool = f.tool ∧
      g.fields = amend (f.tool.changes key value) f.fields := by
  rcases h with kind | ⟨isGrep, rfl⟩
  · exact exists_set_of_mem (Tool.mem_options kind) rfl
  · cases f <;> cases isGrep
    rcases value with b | _ | ⟨c, t⟩ <;> exact ⟨_, rfl, rfl, rfl⟩

theorem takes_of_set_eq_ok {f g : Filter} {key : Text} {value : OptionValue}
    (h : f.set key value = .ok g) : f.tool.Takes key value := by
  by_contra refused
  cases kind : f.tool.kind? key with
  | none => rw [set_unknown kind] at h; cases h
  | some kind' => rw [set_mismatch kind refused] at h; cases h

theorem tool_and_fields_of_set_eq_ok {f g : Filter} {key : Text} {value : OptionValue}
    (h : f.set key value = .ok g) :
    g.tool = f.tool ∧ g.fields = amend (f.tool.changes key value) f.fields := by
  obtain ⟨g', taken, same⟩ := exists_set_eq_ok (takes_of_set_eq_ok h)
  cases h.symm.trans taken
  exact same

theorem tool_edit {f g : Filter} {key : Text} {value : OptionValue}
    (h : f.edit key value = .ok g) : g.tool = f.tool := by
  rw [edit] at h
  cases taken : f.set key value with
  | error fault => rw [taken] at h; cases h
  | ok g' =>
    rw [taken] at h
    cases h
    exact (tool_and_fields_of_set_eq_ok taken).1

theorem tool_foldlM_edit {f g : Filter} {edits : List (Text × OptionValue)}
    (h : edits.foldlM (fun f e => f.edit e.1 e.2) f = .ok g) : g.tool = f.tool := by
  induction edits generalizing f with
  | nil => cases h; rfl
  | cons e edits ih =>
    rw [List.foldlM_cons] at h
    cases first : f.edit e.1 e.2 with
    | error fault => rw [first] at h; cases h
    | ok f' =>
      rw [first] at h
      exact (ih h).trans (tool_edit first)

theorem set_eq_error_iff {f : Filter} {key : Text} {value : OptionValue} {fault : OptionFault} :
    f.set key value = .error fault ↔
      f.tool.kind? key = none ∧ fault = .unknownKey ∨
        ∃ kind, f.tool.kind? key = some kind ∧ ¬ f.tool.Takes key value ∧ fault = kind.fault := by
  cases h : f.tool.kind? key with
  | none => simp [set_unknown h, eq_comm]
  | some kind =>
    by_cases taken : f.tool.Takes key value
    · obtain ⟨g, result, -⟩ := exists_set_eq_ok taken
      simp [result, taken]
    · simp [set_mismatch h taken, taken, eq_comm]

theorem set_eq_unknownKey_iff (f : Filter) (key : Text) (value : OptionValue) :
    f.set key value = .error .unknownKey ↔ f.tool.kind? key = none := by
  rw [set_eq_error_iff]
  refine ⟨?_, fun h => .inl ⟨h, rfl⟩⟩
  rintro (⟨h, -⟩ | ⟨kind, -, -, h⟩)
  · exact h
  · cases kind <;> cases h

theorem set_eq_fault_iff (f : Filter) (key : Text) (value : OptionValue) (kind : OptionKind) :
    f.set key value = .error kind.fault ↔
      f.tool.kind? key = some kind ∧ value.kind ≠ kind ∧ ¬ f.tool.TakesBoth key := by
  rw [set_eq_error_iff]
  constructor
  · rintro (⟨-, fault⟩ | ⟨kind', h, refused, fault⟩)
    · cases kind <;> cases fault
    · obtain rfl : kind' = kind := by cases kind <;> cases kind' <;> first | rfl | cases fault
      rw [Tool.Takes, h, not_or] at refused
      exact ⟨h, fun same => refused.1 (congrArg some same.symm), refused.2⟩
  · rintro ⟨h, ne, single⟩
    refine .inr ⟨kind, h, ?_, rfl⟩
    rw [Tool.Takes, h, not_or]
    exact ⟨fun same => ne (Option.some.inj same).symm, single⟩

theorem set_eq_expectsFlag_iff (f : Filter) (key : Text) (value : OptionValue) :
    f.set key value = .error .expectsFlag ↔
      f.tool.kind? key = some .flag ∧ value.kind = .text ∧ ¬ f.tool.TakesBoth key := by
  have other : value.kind ≠ .flag ↔ value.kind = .text := by cases value <;> simp [OptionValue.kind]
  rw [← other]
  exact f.set_eq_fault_iff key value .flag

theorem set_eq_expectsText_iff (f : Filter) (key : Text) (value : OptionValue) :
    f.set key value = .error .expectsText ↔
      f.tool.kind? key = some .text ∧ value.kind = .flag := by
  have other : value.kind ≠ .text ↔ value.kind = .flag := by cases value <;> simp [OptionValue.kind]
  have single : f.tool.kind? key = some .text → ¬ f.tool.TakesBoth key := by
    rintro h ⟨isGrep, rfl⟩
    rw [isGrep] at h
    cases h
  rw [← other]
  refine (f.set_eq_fault_iff key value .text).trans ⟨fun h => ⟨h.1, h.2.1⟩, fun h => ?_⟩
  exact ⟨h.1, h.2, single h.1⟩

end Filter

/-! ### Members -/

theorem amend_map {α β : Type} (g : α → β) (changes members : List (Text × α)) :
    amend (changes.map fun m => (m.1, g m.2)) (members.map fun m => (m.1, g m.2)) =
      (amend changes members).map fun m => (m.1, g m.2) := by
  have found (key : Text) :
      (changes.map fun m => (m.1, g m.2)).lookup key = (changes.lookup key).map g := by
    induction changes with
    | nil => rfl
    | cons m rest ih =>
      obtain ⟨k, a⟩ := m
      cases same : key == k <;> simp [List.lookup_cons, same, ih]
  simp only [amend, List.map_map, Function.comp_def, found, Option.getD_map]

namespace Json

theorem insertMember_amend (changes : List (Text × Json)) (m : Text × Json)
    (members : List (Text × Json)) :
    insertMember m.1 ((changes.lookup m.1).getD m.2) (amend changes members) =
      amend changes (insertMember m.1 m.2 members) := by
  induction members with
  | nil => rfl
  | cons first rest ih =>
    simp only [amend, List.map_cons, insertMember] at ih ⊢
    split_ifs <;> simp_all

theorem sortMembers_amend (changes members : List (Text × Json)) :
    sortMembers (amend changes members) = amend changes (sortMembers members) := by
  suffices ∀ sorted, (amend changes members).foldl (fun s m => insertMember m.1 m.2 s)
      (amend changes sorted) =
        amend changes (members.foldl (fun s m => insertMember m.1 m.2 s) sorted) from this []
  induction members with
  | nil => exact fun _ => rfl
  | cons m rest ih =>
    intro sorted
    rw [List.foldl_cons, ← ih, ← insertMember_amend]
    rfl

end Json

theorem Filter.optionMembers_of_fields {f g : Filter} {changes : List (Text × OptionValue)}
    (h : g.fields = amend changes f.fields) :
    g.optionMembers = amend (changes.map fun m => (m.1, m.2.toJson)) f.optionMembers := by
  rw [optionMembers, h, ← amend_map, Json.sortMembers_amend, optionMembers]

/-! ## Order of edits

Two edits of different options commute, except for the pattern and the direction of a match, of
which the direction may bring a pattern. So with the direction behind the pattern the order of the
edits does not matter (`amended_directionLast`, `amended_directionLast_perm`).
-/

abbrev OptionEdit := Text × OptionValue

def directionKey : Text := ['v']

def patternKey : Text := "pattern".toList

/-- The two options whose order matters. -/
def Tied (a b : Text) : Prop :=
  a = directionKey ∧ b = patternKey ∨ a = patternKey ∧ b = directionKey

/-- The direction stands nowhere in front of the pattern. -/
def PatternFirst (edits : List OptionEdit) : Prop :=
  ¬ [directionKey, patternKey].Sublist (edits.map Prod.fst)

/-- The edits one after another, up to the first that is refused. -/
def Filter.run (f : Filter) (edits : List OptionEdit) : Except EditError Filter :=
  edits.foldlM (fun f e => f.edit e.1 e.2) f

/-- The options of a tool after edits that are all taken. -/
def Tool.amended (tool : Tool) (edits : List OptionEdit) (members : List OptionEdit) :
    List OptionEdit :=
  edits.foldl (fun members e => amend (tool.changes e.1 e.2) members) members

namespace Filter

theorem eq_of_fields {f g : Filter} (tool : f.tool = g.tool) (same : f.fields = g.fields) :
    f = g := by
  cases f with
  | uniq => cases g <;> cases tool; rfl
  | cut o => cases g <;> cases tool; cases o; simp_all [fields]
  | grep o => cases g <;> cases tool; cases o; simp_all [fields]
  | sort o => cases g <;> cases tool; cases o; simp_all [fields]
  | head o => cases g <;> cases tool; cases o; simp_all [fields]
  | tail o => cases g <;> cases tool; cases o; simp_all [fields]
  | tr o => cases g <;> cases tool; cases o; simp_all [fields]
  | wc o => cases g <;> cases tool; cases o; simp_all [fields]
  | awk o => cases g <;> cases tool; cases o; simp_all [fields]

theorem edit_eq_ok_iff {f g : Filter} {key : Text} {value : OptionValue} :
    f.edit key value = .ok g ↔ f.tool.Takes key value ∧ g.tool = f.tool ∧
      g.fields = amend (f.tool.changes key value) f.fields := by
  have same : f.edit key value = .ok g ↔ f.set key value = .ok g := by
    rw [edit]
    cases f.set key value <;> simp [Except.mapError]
  rw [same]
  constructor
  · intro taken
    exact ⟨takes_of_set_eq_ok taken, tool_and_fields_of_set_eq_ok taken⟩
  · rintro ⟨takes, tool, fields⟩
    obtain ⟨g', taken, tool', fields'⟩ := exists_set_eq_ok takes
    rwa [eq_of_fields (tool.trans tool'.symm) (fields.trans fields'.symm)]

theorem exists_edit_eq_ok_iff {f : Filter} {key : Text} {value : OptionValue} :
    (∃ g, f.edit key value = .ok g) ↔ f.tool.Takes key value := by
  constructor
  · rintro ⟨g, taken⟩
    exact (edit_eq_ok_iff.1 taken).1
  · intro takes
    obtain ⟨g, -, tool, fields⟩ := exists_set_eq_ok takes
    exact ⟨g, edit_eq_ok_iff.2 ⟨takes, tool, fields⟩⟩

theorem run_eq_ok_iff {f g : Filter} {edits : List OptionEdit} :
    f.run edits = .ok g ↔ (∀ e ∈ edits, f.tool.Takes e.1 e.2) ∧ g.tool = f.tool ∧
      g.fields = f.tool.amended edits f.fields := by
  induction edits generalizing f with
  | nil =>
    constructor
    · intro same
      cases same
      exact ⟨by simp, rfl, rfl⟩
    · rintro ⟨-, tool, fields⟩
      exact congrArg Except.ok (eq_of_fields tool.symm fields.symm)
  | cons e edits ih =>
    have split : f.run (e :: edits) = f.edit e.1 e.2 >>= fun h => h.run edits := List.foldlM_cons
    rw [split, List.forall_mem_cons]
    cases first : f.edit e.1 e.2 with
    | error fault =>
      have refused : ¬ f.tool.Takes e.1 e.2 := by
        intro takes
        obtain ⟨h, taken⟩ := exists_edit_eq_ok_iff.2 takes
        cases first.symm.trans taken
      simp [bind, Except.bind, refused]
    | ok h =>
      obtain ⟨takes, tool, fields⟩ := edit_eq_ok_iff.1 first
      have rest : h.run edits = .ok g ↔ _ := ih
      rw [tool, fields] at rest
      simp only [bind, Except.bind, rest, takes, true_and]
      rfl

theorem exists_run_eq_ok_iff {f : Filter} {edits : List OptionEdit} :
    (∃ g, f.run edits = .ok g) ↔ ∀ e ∈ edits, f.tool.Takes e.1 e.2 := by
  refine ⟨fun ⟨g, done⟩ => (run_eq_ok_iff.1 done).1, fun takes => ?_⟩
  induction edits generalizing f with
  | nil => exact ⟨f, rfl⟩
  | cons e edits ih =>
    rw [List.forall_mem_cons] at takes
    obtain ⟨h, first⟩ := exists_edit_eq_ok_iff.2 takes.1
    have tool := (edit_eq_ok_iff.1 first).2.1
    obtain ⟨g, rest⟩ := ih (f := h) (by rw [tool]; exact takes.2)
    refine ⟨g, ?_⟩
    rw [run, List.foldlM_cons, first]
    exact rest

end Filter

/-! ### Two edits -/

theorem amend_comm {α : Type} {a b : List (Text × α)}
    (apart : ∀ key, a.lookup key = none ∨ b.lookup key = none) (members : List (Text × α)) :
    amend a (amend b members) = amend b (amend a members) := by
  simp only [amend, List.map_map]
  refine List.map_congr_left fun m _ => ?_
  rcases apart m.1 with h | h <;> simp [h]

namespace Tool

variable {tool : Tool} {a b : OptionEdit} {edits other : List OptionEdit}

theorem lookup_changes {key k : Text} {value : OptionValue} (ne : k ≠ key)
    (free : key = directionKey → k ≠ patternKey) :
    (tool.changes key value).lookup k = none := by
  have off : (k == key) = false := by simpa using ne
  unfold changes
  split_ifs with both
  · have off' : (k == "pattern".toList) = false := beq_eq_false_iff_ne.2 (free both.2)
    rcases value with b | _ | ⟨c, t⟩ <;> simp only [List.lookup_cons, List.lookup_nil, off, off']
  · simp only [List.lookup_cons, List.lookup_nil, off]

theorem amend_changes_comm (ne : a.1 ≠ b.1) (free : ¬ Tied a.1 b.1) (members : List OptionEdit) :
    amend (tool.changes a.1 a.2) (amend (tool.changes b.1 b.2) members) =
      amend (tool.changes b.1 b.2) (amend (tool.changes a.1 a.2) members) := by
  refine amend_comm (fun key => ?_) members
  by_cases own : key = a.1 ∨ a.1 = directionKey ∧ key = patternKey
  · -- The key belongs to the first edit, so that it is not one of the second.
    right
    rcases own with rfl | ⟨direction, rfl⟩
    · exact lookup_changes ne fun direction pattern => free (.inr ⟨pattern, direction⟩)
    · refine lookup_changes (fun same => free (.inl ⟨direction, same.symm⟩)) fun other => ?_
      exact absurd (direction.trans other.symm) ne
  · rw [not_or, not_and] at own
    exact .inl (lookup_changes own.1 own.2)

/-! ### Many edits -/

theorem amended_append (tool : Tool) (edits more members : List OptionEdit) :
    tool.amended (edits ++ more) members = tool.amended more (tool.amended edits members) :=
  List.foldl_append

theorem amended_perm (perm : edits.Perm other) (distinct : (edits.map Prod.fst).Nodup)
    (free : directionKey ∉ edits.map Prod.fst ∨ patternKey ∉ edits.map Prod.fst)
    (members : List OptionEdit) : tool.amended edits members = tool.amended other members := by
  refine perm.foldl_eq' (fun a mem b mem' members => ?_) members
  by_cases same : a = b
  · rw [same]
  · have ne : b.1 ≠ a.1 := fun keys =>
      same (List.inj_on_of_nodup_map distinct mem mem' keys.symm)
    refine amend_changes_comm ne (fun tied => ?_) members
    have first := List.mem_map_of_mem (f := Prod.fst) mem
    have second := List.mem_map_of_mem (f := Prod.fst) mem'
    rcases tied with ⟨h, h'⟩ | ⟨h, h'⟩ <;> rw [h'] at first <;> rw [h] at second <;> tauto

def directionLast (edits : List OptionEdit) : List OptionEdit :=
  edits.filter (·.1 != directionKey) ++ edits.filter (·.1 == directionKey)

theorem directionLast_of_forall (others : ∀ e ∈ edits, e.1 ≠ directionKey) :
    edits.filter (·.1 != directionKey) = edits ∧ edits.filter (·.1 == directionKey) = [] := by
  constructor
  · exact List.filter_eq_self.2 fun e mem => bne_iff_ne.2 (others e mem)
  · exact List.filter_eq_nil_iff.2 fun e mem => by simpa using others e mem

theorem amended_directionLast (distinct : (edits.map Prod.fst).Nodup) (first : PatternFirst edits)
    (members : List OptionEdit) :
    tool.amended (directionLast edits) members = tool.amended edits members := by
  by_cases mem : directionKey ∈ edits.map Prod.fst
  · obtain ⟨e, among, key⟩ := List.mem_map.1 mem
    obtain ⟨front, back, rfl⟩ := List.append_of_mem among
    have middle := distinct
    rw [List.map_append, List.map_cons, List.nodup_middle, List.nodup_cons, ← List.map_append]
      at middle
    have others : ∀ o ∈ front ++ back, o.1 ≠ directionKey := fun o among same =>
      middle.1 (key.trans same.symm ▸ List.mem_map_of_mem among)
    obtain ⟨frontOthers, backOthers⟩ := List.forall_mem_append.1 others
    obtain ⟨keepFront, dropFront⟩ := directionLast_of_forall frontOthers
    obtain ⟨keepBack, dropBack⟩ := directionLast_of_forall backOthers
    have last : directionLast (front ++ e :: back) = front ++ (back ++ [e]) := by
      simp [directionLast, key, keepFront, dropFront, keepBack, dropBack]
    have free : patternKey ∉ (back ++ [e]).map Prod.fst := by
      rw [List.map_append, List.mem_append, List.map_singleton, List.mem_singleton, key, not_or]
      refine ⟨fun behind => first ?_, by decide⟩
      rw [List.map_append, List.map_cons, key]
      exact ((List.singleton_sublist.2 behind).cons_cons _).trans (List.sublist_append_right _ _)
    have distinct' : ((back ++ [e]).map Prod.fst).Nodup := by
      have sub := distinct.sublist ((List.sublist_append_right front (e :: back)).map Prod.fst)
      exact (((List.perm_append_singleton e back).map Prod.fst).nodup_iff).2 sub
    rw [last, amended_append, amended_append tool front (e :: back)]
    exact amended_perm (List.perm_append_singleton e back) distinct' (.inr free) _
  · have others : ∀ o ∈ edits, o.1 ≠ directionKey := fun o among same =>
      mem (same ▸ List.mem_map_of_mem among)
    obtain ⟨keep, drop⟩ := directionLast_of_forall others
    rw [directionLast, keep, drop, List.append_nil]

theorem directionLast_perm (edits : List OptionEdit) : (directionLast edits).Perm edits := by
  have split := List.filter_append_perm (fun e : OptionEdit => e.1 != directionKey) edits
  simp only [bne, Bool.not_not] at split
  exact split

theorem amended_directionLast_perm (perm : edits.Perm other)
    (distinct : (edits.map Prod.fst).Nodup) (members : List OptionEdit) :
    tool.amended (directionLast edits) members = tool.amended (directionLast other) members := by
  have free : directionKey ∉ (edits.filter (·.1 != directionKey)).map Prod.fst := by
    rintro mem
    obtain ⟨e, among, key⟩ := List.mem_map.1 mem
    exact bne_iff_ne.1 (List.mem_filter.1 among).2 key
  have free' : patternKey ∉ (edits.filter (·.1 == directionKey)).map Prod.fst := by
    rintro mem
    obtain ⟨e, among, key⟩ := List.mem_map.1 mem
    exact absurd (key.symm.trans (beq_iff_eq.1 (List.mem_filter.1 among).2)) (by decide)
  have sub (p : OptionEdit → Bool) : ((edits.filter p).map Prod.fst).Nodup :=
    distinct.sublist (List.filter_sublist.map Prod.fst)
  rw [directionLast, directionLast, amended_append, amended_append,
    amended_perm (perm.filter _) (sub _) (.inl free),
    amended_perm (perm.filter _) (sub _) (.inr free')]

end Tool

namespace Filter

theorem run_pair_iff {f g : Filter} {a b : OptionEdit} (ne : a.1 ≠ b.1) (free : ¬ Tied a.1 b.1) :
    f.run [a, b] = .ok g ↔ f.run [b, a] = .ok g := by
  have swapped : f.tool.amended [a, b] f.fields = f.tool.amended [b, a] f.fields :=
    (Tool.amend_changes_comm ne free f.fields).symm
  have both : (∀ e ∈ [a, b], f.tool.Takes e.1 e.2) ↔ ∀ e ∈ [b, a], f.tool.Takes e.1 e.2 := by
    simp [and_comm]
  rw [run_eq_ok_iff, run_eq_ok_iff, swapped, both]

/-- The direction in front of the pattern matters when it brings a pattern of its own. -/
theorem run_tied_iff {f : Filter} (isGrep : f.tool = .grep) (t : Text) (value : OptionValue) :
    f.run [(patternKey, .text t), (directionKey, value)] =
        f.run [(directionKey, value), (patternKey, .text t)] ↔
      ∀ u, value = .text u → u = [] ∨ u = t := by
  cases f <;> cases isGrep
  rename_i o
  have before : (grep o).run [(patternKey, .text t), (directionKey, value)] =
      .ok (.grep (Grep.setInverted { o with pattern := t } value)) := rfl
  have behind : (grep o).run [(directionKey, value), (patternKey, .text t)] =
      .ok (.grep { o.setInverted value with pattern := t }) := rfl
  rw [before, behind]
  rcases value with b | _ | ⟨c, u⟩ <;> simp [Grep.setInverted]

end Filter

end Pipework
