import Mathlib.Data.List.Permutation
import Pipework.Proofs.Filter.Options
import Pipework.Proofs.Text.Numerals

/-!
Steps written as JSON and read again.
-/

set_option autoImplicit false
set_option relaxedAutoImplicit false

namespace Pipework

/-! ## Ids

The text of an id is read as that id.
-/

namespace StepId

def digits (id : StepId) : Text :=
  Text.hexPadded 16 id.high.toNat ++ Text.hexPadded 16 id.low.toNat

theorem length_digits (id : StepId) : id.digits.length = 32 := by simp [digits]

theorem ne_hyphen_of_mem_digits {id : StepId} {c : Char} (h : c ∈ id.digits) : c ≠ '-' := by
  have free : ∀ d < 16, Text.hexDigit d ≠ '-' := by decide
  rcases List.mem_append.1 h with h | h <;>
    · obtain ⟨d, bound, rfl⟩ := Text.exists_of_mem_hexPadded h
      exact free d bound

theorem length_hyphenate {t : Text} (h : t.length = 32) : (hyphenate t).length = 36 := by
  simp [hyphenate, h]

theorem filter_hyphenate {t : Text} (free : ∀ c ∈ t, c ≠ '-') :
    (hyphenate t).filter (· != '-') = t := by
  have part (u : Text) (within : ∀ c ∈ u, c ∈ t) : u.filter (· != '-') = u :=
    List.filter_eq_self.2 fun c mem => bne_iff_ne.2 (free c (within c mem))
  have start := part (t.take 8) fun c mem => List.mem_of_mem_take mem
  have inner (n : Nat) := part ((t.drop n).take 4) fun c mem =>
    List.mem_of_mem_drop (List.mem_of_mem_take mem)
  have last := part (t.drop 20) fun c mem => List.mem_of_mem_drop mem
  have whole : t.take 8 ++ (t.drop 8).take 4 ++ (t.drop 12).take 4 ++ (t.drop 16).take 4 ++
      t.drop 20 = t := by
    rw [← List.take_add, ← List.take_add, ← List.take_add, List.take_append_drop]
  simpa [hyphenate, start, inner, last] using whole

theorem ofDigits?_digits (id : StepId) : ofDigits? id.digits = some id := by
  have high : id.digits.take 16 = Text.hexPadded 16 id.high.toNat := by simp [digits]
  have low : id.digits.drop 16 = Text.hexPadded 16 id.low.toNat := by simp [digits]
  have fits (x : UInt64) : (x.toNat % Nat.pow 16 16).toUInt64 = x := by
    have bound : x.toNat < Nat.pow 16 16 := UInt64.toNat_lt x
    rw [Nat.mod_eq_of_lt bound, Nat.toUInt64, UInt64.ofNat_toNat]
  rw [ofDigits?, high, low, Text.readHex_hexPadded, Text.readHex_hexPadded]
  simp only [Option.bind_eq_bind, Option.bind_some, fits]
  rfl

theorem ofText?_toText (id : StepId) : ofText? id.toText = some id := by
  have length : id.toText.length = 36 := length_hyphenate id.length_digits
  have bare : id.toText.filter (· != '-') = id.digits :=
    filter_hyphenate fun c => ne_hyphen_of_mem_digits
  have same : hyphenate id.digits = id.toText := rfl
  rw [ofText?, if_neg (by omega), if_pos length, ofHyphenated?, bare,
    if_pos ⟨id.length_digits, same⟩, ofDigits?_digits]

end StepId

/-! ## Members

Objects of options, and a step as an object with its keys in any order.
-/

def OptionEdit.member (e : OptionEdit) : Text × Json := (e.1, e.2.toJson)

namespace Json

theorem insertMember_comm {k k' : Text} (ne : k ≠ k') (v v' : Json) (members : List (Text × Json)) :
    insertMember k v (insertMember k' v' members) =
      insertMember k' v' (insertMember k v members) := by
  have order : Text.le k k' = !Text.le k' k := by
    have total := Text.le_total k k'
    have strict := Text.le_antisymm k k'
    cases first : Text.le k k' <;> cases second : Text.le k' k <;> simp_all
  induction members with
  | nil => cases le : Text.le k' k <;> simp [insertMember, ne, ne.symm, order, le]
  | cons m members ih =>
    obtain ⟨key, value⟩ := m
    have trans := Text.le_trans k k' key
    have trans' := Text.le_trans k' k key
    by_cases same : k = key
    · subst same
      cases le : Text.le k' k <;> simp [insertMember, ne, ne.symm, order, le]
    by_cases same' : k' = key
    · subst same'
      cases le : Text.le k' k <;> simp [insertMember, ne, ne.symm, order, le]
    -- Both go in front of the first member, or one, or none of them.
    cases le : Text.le k' k <;> cases front : Text.le k key <;> cases front' : Text.le k' key <;>
      simp_all [insertMember, ne.symm]

theorem sortMembers_perm {members members' : List (Text × Json)} (perm : members.Perm members')
    (distinct : (members.map Prod.fst).Nodup) : sortMembers members = sortMembers members' := by
  refine perm.foldl_eq' (fun a memA b memB sorted => ?_) []
  by_cases same : a = b
  · rw [same]
  · have keys : b.1 ≠ a.1 := fun key =>
      same (List.inj_on_of_nodup_map distinct memB memA key).symm
    exact insertMember_comm keys ..

theorem exists_insertMember (e : OptionEdit) {sorted : List OptionEdit}
    (fresh : e.1 ∉ sorted.map Prod.fst) :
    ∃ all : List OptionEdit, all.Perm (e :: sorted) ∧
      insertMember e.1 e.2.toJson (sorted.map OptionEdit.member) =
        all.map OptionEdit.member := by
  induction sorted with
  | nil => exact ⟨[e], .refl _, rfl⟩
  | cons m sorted ih =>
    rw [List.map_cons, List.mem_cons, not_or] at fresh
    obtain ⟨all, perm, same⟩ := ih fresh.2
    simp only [List.map_cons, OptionEdit.member, insertMember, if_neg fresh.1] at same ⊢
    split_ifs
    · exact ⟨e :: m :: sorted, .refl _, rfl⟩
    · exact ⟨m :: all, (perm.cons m).trans (.swap e m sorted), congrArg (_ :: ·) same⟩

theorem exists_sortMembers {edits : List OptionEdit} (distinct : (edits.map Prod.fst).Nodup) :
    ∃ sorted : List OptionEdit, sorted.Perm edits ∧
      sortMembers (edits.map OptionEdit.member) = sorted.map OptionEdit.member := by
  suffices ∀ (edits start : List OptionEdit), ((edits ++ start).map Prod.fst).Nodup →
      ∃ sorted : List OptionEdit, sorted.Perm (edits ++ start) ∧
        (edits.map OptionEdit.member).foldl (fun s m => insertMember m.1 m.2 s)
          (start.map OptionEdit.member) = sorted.map OptionEdit.member by
    have whole := this edits [] (by rwa [List.append_nil])
    rwa [List.append_nil] at whole
  intro edits
  induction edits with
  | nil => exact fun start _ => ⟨start, .refl _, rfl⟩
  | cons e edits ih =>
    intro start distinct
    rw [List.cons_append, List.map_cons, List.nodup_cons] at distinct
    have fresh : e.1 ∉ start.map Prod.fst := fun mem =>
      distinct.1 (by simpa using Or.inr (by simpa using mem))
    obtain ⟨next, perm, same⟩ := exists_insertMember e fresh
    have moved : (edits ++ next).Perm (e :: (edits ++ start)) :=
      (perm.append_left edits).trans List.perm_middle
    have distinct' : ((edits ++ next).map Prod.fst).Nodup := by
      rw [(moved.map Prod.fst).nodup_iff, List.map_cons]
      exact List.nodup_cons.2 distinct
    obtain ⟨sorted, perm', same'⟩ := ih next distinct'
    refine ⟨sorted, perm'.trans moved, ?_⟩
    rw [List.map_cons, List.foldl_cons, OptionEdit.member, same, same']

theorem canonical_members (edits : List OptionEdit) :
    (object (edits.map OptionEdit.member)).canonical =
      .object (sortMembers (edits.map OptionEdit.member)) := by
  have kept : canonicalMembers (edits.map OptionEdit.member) =
      edits.map OptionEdit.member := by
    induction edits with
    | nil => rfl
    | cons e edits ih =>
      obtain ⟨key, value⟩ := e
      rw [List.map_cons, OptionEdit.member, canonicalMembers, ih]
      cases value <;> rfl
  rw [canonical, kept]

end Json

namespace Decode

theorem find_of_mem {ρ : Type} {fields : List (Field ρ)}
    (distinct : (fields.map fun f => f.key.toList).Nodup) {f : Field ρ} (mem : f ∈ fields) :
    fields.find? (·.key.toList == f.key.toList) = some f := by
  induction fields with
  | nil => cases mem
  | cons g fields ih =>
    rw [List.map_cons, List.nodup_cons] at distinct
    rcases List.mem_cons.1 mem with rfl | mem
    · exact List.find?_cons_of_pos (beq_self_eq_true _)
    · have other : g.key.toList ≠ f.key.toList := fun same =>
        distinct.1 (List.mem_map.2 ⟨f, mem, same.symm⟩)
      rw [List.find?_cons_of_neg (by simpa using other), ih distinct.2 mem]

theorem setMembers_of_mem {ρ : Type} {fields : List (Field ρ)}
    (distinct : (fields.map fun f => f.key.toList).Nodup) {f : Field ρ} (mem : f ∈ fields)
    {value : Json} {r r' : ρ} (set : f.set value r = .ok r') (rest : List (Text × Json)) :
    setMembers fields ((f.key.toList, value) :: rest) r = setMembers fields rest r' := by
  rw [setMembers]
  simp only [find_of_mem distinct mem, set]
  rfl

section Members

variable {emptyIsUnit : Bool} {rest : List (Text × Json)} {r : RawStep}

theorem nodup_rawFields : ((rawFields emptyIsUnit).map fun f => f.key.toList).Nodup := by
  have distinct : ["id".toList, "type".toList, "options".toList].Nodup := by decide
  exact distinct

theorem setMembers_id {id : StepId} :
    setMembers (rawFields emptyIsUnit) (("id".toList, .string id.toText) :: rest) r =
      setMembers (rawFields emptyIsUnit) rest { r with id := some id } := by
  have read : stepId (.string id.toText) = .ok id := by rw [stepId, StepId.ofText?_toText]
  have mem : field "id" stepId (fun r id => { r with id := some id }) ∈ rawFields emptyIsUnit :=
    List.mem_cons_self
  exact setMembers_of_mem nodup_rawFields mem (by simp only [field, read, Except.map]) rest

theorem setMembers_type {tool : Tool} :
    setMembers (rawFields emptyIsUnit) (("type".toList, .string tool.name) :: rest) r =
      setMembers (rawFields emptyIsUnit) rest { r with tool := some tool } := by
  have read : Decode.tool emptyIsUnit (.string tool.name) = .ok tool := by
    rw [Decode.tool, toolName, Tool.ofName?_name]
  have mem : field "type" (Decode.tool emptyIsUnit) (fun r t => { r with tool := some t }) ∈
      rawFields emptyIsUnit := List.mem_cons_of_mem _ List.mem_cons_self
  exact setMembers_of_mem nodup_rawFields mem (by simp only [field, read, Except.map]) rest

theorem setMembers_options {given : Json} :
    setMembers (rawFields emptyIsUnit) (("options".toList, given) :: rest) r =
      setMembers (rawFields emptyIsUnit) rest { r with options := given.canonical } := by
  have mem : field "options" (fun j => .ok j.canonical) (fun r j => { r with options := j }) ∈
      rawFields emptyIsUnit :=
    List.mem_cons_of_mem _ (List.mem_cons_of_mem _ List.mem_cons_self)
  exact setMembers_of_mem nodup_rawFields mem rfl rest

end Members

/-- The members of a step with or without an id, in any order. -/
theorem draft_eq_filter (emptyIsUnit : Bool) (id : Option StepId) {tool : Tool} {given : Json}
    {members : List (Text × Json)}
    (perm : members.Perm ((id.map fun id => ("id".toList, Json.string id.toText)).toList ++
      [("type".toList, .string tool.name), ("options".toList, given)])) :
    draft emptyIsUnit (.object members) = (filter tool given.canonical).map (⟨id, ·⟩) := by
  have read : setMembers (rawFields emptyIsUnit) members ⟨none, none, .null⟩ =
      .ok ⟨id, some tool, given.canonical⟩ := by
    have among := List.mem_permutations'.2 perm
    cases id with
    | none =>
      simp only [Option.map_none, Option.toList_none, List.nil_append, List.permutations',
        List.permutations'Aux, List.flatMap_cons, List.flatMap_nil, List.append_nil, List.map_cons,
        List.map_nil, List.mem_cons, List.not_mem_nil, or_false] at among
      rcases among with rfl | rfl <;> simp only [setMembers_type, setMembers_options] <;> rfl
    | some id =>
      simp only [Option.map_some, Option.toList_some, List.cons_append, List.nil_append,
        List.permutations', List.permutations'Aux, List.flatMap_cons, List.flatMap_nil,
        List.append_nil, List.map_cons, List.map_nil, List.mem_cons, List.not_mem_nil,
        or_false] at among
      rcases among with rfl | rfl | rfl | rfl | rfl | rfl <;>
        simp only [setMembers_id, setMembers_type, setMembers_options] <;> rfl
  rw [draft.eq_2 _ _ (fun items => by simp), record, read]
  have finished : RawStep.finish ⟨id, some tool, given.canonical⟩ (.missingField "type") =
      (filter tool given.canonical).map (⟨id, ·⟩) := by
    simp only [RawStep.finish]
    cases filter tool given.canonical <;> rfl
  exact finished

end Decode

/-! ## Steps

A step is written in one canonical form, with every option of its tool and each as a value of its
own kind. Many values are read as a step; what they are read as is written in that form and read
back from it (`draft_toJson`).
-/

/-- An object with every option of a tool, each once and as a value of its kind. -/
def Tool.HoldsOptions (tool : Tool) (j : Json) : Prop :=
  ∃ fields : List OptionEdit, (fields.map fun field => (field.1, field.2.kind)).Perm tool.options ∧
    j = .object (fields.map OptionEdit.member)

/-- An object with the id, the tool and all the options of a step, the keys in any order. -/
def Step.WrittenAs (s : Step) (j : Json) : Prop :=
  ∃ (fields : List OptionEdit) (members : List (Text × Json)), fields.Perm s.filter.fields ∧
    members.Perm [("id".toList, .string s.id.toText), ("type".toList, .string s.tool.name),
      ("options".toList, .object (fields.map OptionEdit.member))] ∧ j = .object members

theorem Filter.map_fst_fields (f : Filter) :
    f.fields.map Prod.fst = f.tool.options.map Prod.fst := by
  rw [← f.map_kind_fields, List.map_map]
  rfl

theorem Filter.nodup_fields (f : Filter) : (f.fields.map Prod.fst).Nodup := by
  rw [f.map_fst_fields]
  cases f.tool <;> decide

theorem Filter.exists_optionMembers (f : Filter) :
    ∃ fields : List OptionEdit, fields.Perm f.fields ∧
      f.optionMembers = fields.map OptionEdit.member :=
  Json.exists_sortMembers f.nodup_fields

theorem Tool.holdsOptions_of_perm {f : Filter} {fields : List OptionEdit}
    (perm : fields.Perm f.fields) : f.tool.HoldsOptions (.object (fields.map OptionEdit.member)) :=
  ⟨fields, f.map_kind_fields ▸ perm.map _, rfl⟩

theorem Step.writtenAs_toJson (s : Step) : s.WrittenAs s.toJson := by
  obtain ⟨fields, perm, same⟩ := s.filter.exists_optionMembers
  refine ⟨fields, _, perm, ?_, rfl⟩
  rw [Filter.members, same]
  exact (List.Perm.swap ..).cons _

theorem Step.canonical_toJson (s : Step) : s.toJson.canonical = s.toJson := by
  obtain ⟨id, f⟩ := s
  cases f <;> rfl

namespace Decode

theorem options_optionMembers (f : Filter) :
    options f.tool (.object f.optionMembers) = .ok f := by
  cases f <;> rfl

theorem draft_of_writtenAs (emptyIsUnit : Bool) {s : Step} {j : Json} (written : s.WrittenAs j) :
    draft emptyIsUnit j = .ok ⟨some s.id, s.filter⟩ := by
  obtain ⟨fields, members, perm, order, rfl⟩ := written
  have distinct : (fields.map Prod.fst).Nodup :=
    (perm.map Prod.fst).nodup_iff.2 s.filter.nodup_fields
  have sorted : Json.sortMembers (fields.map OptionEdit.member) = s.filter.optionMembers :=
    Json.sortMembers_perm (perm.map _) (by simpa [Function.comp_def, OptionEdit.member])
  have read : filter s.tool (.object s.filter.optionMembers) = .ok s.filter :=
    options_optionMembers s.filter
  rw [draft_eq_filter emptyIsUnit (some s.id) order, Json.canonical_members, sorted, read]
  rfl

/-- Every step is read from each object it may be written as. What any value is read as becomes a
step that is written with all the options of its tool, each as a value of its kind and with the
keys in ascending order, and is read back from there without a new id. -/
theorem draft_toJson (emptyIsUnit : Bool) :
    (∀ s : Step, s.WrittenAs s.toJson ∧
      ∀ j, s.WrittenAs j → draft emptyIsUnit j = .ok ⟨some s.id, s.filter⟩) ∧
    ∀ (j : Json) (d : Draft), draft emptyIsUnit j = .ok d → ∀ (supply : IdSupply) (used : Nat),
      ∃ s : Step, (Draft.settle supply used [d]).1 = [s] ∧ s.filter = d.filter ∧
        (∀ id, d.id = some id → s.id = id) ∧
        (∃ again, draft emptyIsUnit s.toJson = .ok again ∧
          ∀ supply' used', Draft.settle supply' used' [again] = ([s], used')) ∧
        s.toJson.canonical = s.toJson ∧
        ∃ options, s.tool.HoldsOptions options ∧
          s.toJson = .object [("id".toList, .string s.id.toText), ("options".toList, options),
            ("type".toList, .string s.tool.name)] := by
  refine ⟨fun s => ⟨s.writtenAs_toJson, fun j => draft_of_writtenAs emptyIsUnit⟩, ?_⟩
  intro j d _ supply used
  obtain ⟨s, settled, sameFilter, sameId⟩ : ∃ s, (Draft.settle supply used [d]).1 = [s] ∧
      s.filter = d.filter ∧ ∀ id, d.id = some id → s.id = id := by
    obtain ⟨id, f⟩ := d
    cases id with
    | none => exact ⟨⟨supply used, f⟩, rfl, rfl, fun id given => nomatch given⟩
    | some id => exact ⟨⟨id, f⟩, rfl, rfl, fun id' given => Option.some.inj given⟩
  have again := draft_of_writtenAs emptyIsUnit s.writtenAs_toJson
  obtain ⟨fields, perm, same⟩ := s.filter.exists_optionMembers
  exact ⟨s, settled, sameFilter, sameId, ⟨_, again, fun supply' used' => rfl⟩, s.canonical_toJson,
    _, Tool.holdsOptions_of_perm perm, by rw [Step.toJson, Filter.members, same]; rfl⟩

/-- A number for an id, a text for the direction of a match and keys that nobody knows. -/
theorem draft_toJson_loose :
    let loose : Json := .object
      [("options".toList, .object [(['v'], .string ['x']), (['z'], .null), (['i'], .bool true)]),
        ("note".toList, .null), ("type".toList, .object [(Tool.grep.name, .null)]),
        ("id".toList, .number (.whole 7))]
    let step : Step := ⟨.ofNumber (.ofInt 7), .grep ⟨['x'], true, true, false⟩⟩
    draft false loose = .ok ⟨some step.id, step.filter⟩ ∧
      ∃ again, draft false step.toJson = .ok again ∧
        ∀ supply used, Draft.settle supply used [again] = ([step], used) := by
  intro loose step
  have read : draft false loose = .ok ⟨some step.id, step.filter⟩ := rfl
  obtain ⟨s, settled, -, -, again, -⟩ :=
    (draft_toJson false).2 loose _ read (fun _ => step.id) 0
  cases settled
  exact ⟨read, again⟩

end Decode

end Pipework
