import Pipework.Proofs.Step.Codec

/-!
Options that are loaded and options that are edited.

The members of an options object do to the defaults of a tool what an edit for each of them does,
with the direction of a match behind its pattern (`draft_eq_edits`).
-/

set_option autoImplicit false
set_option relaxedAutoImplicit false

namespace Pipework

namespace Decode

theorem setMembers_eq_foldlM {ρ σ : Type} (view : ρ → σ) {fields : List (Field ρ)}
    {step : σ → OptionEdit → Option σ} {edits : List OptionEdit}
    (agree : ∀ e ∈ edits, ∀ r, ∃ f, fields.find? (·.key.toList == e.1) = some f ∧
      (f.set e.2.toJson r).toOption.map view = step (view r) e) (r : ρ) :
    (setMembers fields (edits.map OptionEdit.member) r).toOption.map view =
      edits.foldlM step (view r) := by
  induction edits generalizing r with
  | nil => rfl
  | cons e edits ih =>
    rw [List.forall_mem_cons] at agree
    obtain ⟨f, found, same⟩ := agree.1 r
    rw [List.map_cons, OptionEdit.member, setMembers, List.foldlM_cons, ← same]
    simp only [found]
    cases f.set e.2.toJson r with
    | error fault => rfl
    | ok r' => exact ih agree.2 r'

def editStep (f : Filter) (e : OptionEdit) : Option Filter := (f.edit e.1 e.2).toOption

theorem editStep_eq_some_iff {f g : Filter} {e : OptionEdit} :
    editStep f e = some g ↔ f.edit e.1 e.2 = .ok g := by
  rw [editStep]
  cases f.edit e.1 e.2 <;> simp [Except.toOption]

theorem toOption_run (f : Filter) (edits : List OptionEdit) :
    (f.run edits).toOption = edits.foldlM editStep f := by
  induction edits generalizing f with
  | nil => rfl
  | cons e edits ih =>
    rw [Filter.run, List.foldlM_cons, List.foldlM_cons, editStep]
    cases f.edit e.1 e.2 with
    | error fault => rfl
    | ok g => exact ih g

section Record

variable {ρ : Type} {fields : List (Field ρ)} {tool : Tool} {edits : List OptionEdit}
  (wrap : ρ → Filter)

theorem record_eq_run {start : ρ} (same : wrap start = .default tool)
    (agree : ∀ e ∈ edits, ∀ r, ∃ f, fields.find? (·.key.toList == e.1) = some f ∧
      (f.set e.2.toJson r).toOption.map wrap = editStep (wrap r) e) (name : String) :
    ((record name fields start (.object (edits.map OptionEdit.member))).map wrap).toOption =
      ((Filter.default tool).run edits).toOption := by
  rw [toOption_run, ← same, ← setMembers_eq_foldlM wrap agree start, record]
  cases setMembers fields (edits.map OptionEdit.member) start <;> rfl

theorem exists_field (known : ∀ e ∈ edits, e.1 ∈ tool.options.map Prod.fst)
    (all : ∀ option ∈ tool.options, ∀ (value : OptionValue) (r : ρ), ∃ f,
      fields.find? (·.key.toList == option.1) = some f ∧
        (f.set value.toJson r).toOption.map wrap = editStep (wrap r) (option.1, value)) :
    ∀ e ∈ edits, ∀ r, ∃ f, fields.find? (·.key.toList == e.1) = some f ∧
      (f.set e.2.toJson r).toOption.map wrap = editStep (wrap r) e := by
  intro e mem r
  obtain ⟨option, among, key⟩ := List.mem_map.1 (known e mem)
  have found := all option among e.2 r
  rw [key] at found
  exact found

end Record

theorem options_eq_run {tool : Tool} (single : tool ≠ .grep) {edits : List OptionEdit}
    (known : ∀ e ∈ edits, e.1 ∈ tool.options.map Prod.fst) :
    (options tool (.object (edits.map OptionEdit.member))).toOption =
      ((Filter.default tool).run edits).toOption := by
  cases tool
  case grep => exact absurd rfl single
  case uniq =>
    have none : edits = [] := by
      cases edits with
      | nil => rfl
      | cons e edits => cases known e List.mem_cons_self
    subst none
    rfl
  -- Every other tool has one record, with a few keys for a flag or a text each.
  all_goals
    refine record_eq_run _ ?start (exists_field _ known ?field) _
    case start => rfl
    case field =>
      intro option mem value r
      fin_cases mem <;> cases value <;> exact ⟨_, rfl, rfl⟩

/-! ### The options of a match -/

/-- The options of a match while they are read, with the direction kept apart. -/
def directed (r : Grep × OptionValue) : Filter × OptionValue := (.grep r.1, r.2)

def directedStep (s : Filter × OptionValue) (e : OptionEdit) : Option (Filter × OptionValue) :=
  if e.1 = directionKey then some (s.1, e.2) else (editStep s.1 e).map fun f => (f, s.2)

theorem foldlM_directedStep (edits : List OptionEdit) (f : Filter) (v : OptionValue) :
    edits.foldlM directedStep (f, v) =
      ((edits.filter (·.1 != directionKey)).foldlM editStep f).map fun g =>
        (g, (edits.filter (·.1 == directionKey)).foldl (fun _ e => e.2) v) := by
  induction edits generalizing f v with
  | nil => rfl
  | cons e edits ih =>
    by_cases key : e.1 = directionKey
    · simpa [directedStep, key] using ih f e.2
    · rw [List.foldlM_cons, directedStep, if_neg key]
      cases first : editStep f e with
      | none => simp [key, first]
      | some g => simpa [key, first] using ih g v

theorem inverted_of_editStep {o : Grep} {e : OptionEdit} {g : Filter} (key : e.1 ≠ directionKey)
    (done : editStep (.grep o) e = some g) : ∃ o', g = .grep o' ∧ o'.inverted = o.inverted := by
  obtain ⟨-, tool, fields⟩ := Filter.edit_eq_ok_iff.1 (editStep_eq_some_iff.1 done)
  have kept : (Tool.grep.changes e.1 e.2).lookup ['v'] = none :=
    Tool.lookup_changes (Ne.symm key) fun same => absurd same key
  cases g <;> cases tool
  rename_i o'
  refine ⟨o', rfl, ?_⟩
  -- The direction is the third option of a match.
  have direction := congrArg (fun members => members[2]?) fields
  simpa [Filter.fields, Filter.tool, amend, kept] using direction

theorem inverted_of_foldlM {o : Grep} {edits : List OptionEdit} {g : Filter}
    (others : ∀ e ∈ edits, e.1 ≠ directionKey)
    (done : edits.foldlM editStep (.grep o) = some g) :
    ∃ o', g = .grep o' ∧ o'.inverted = o.inverted := by
  induction edits generalizing o with
  | nil =>
    cases done
    exact ⟨o, rfl, rfl⟩
  | cons e edits ih =>
    rw [List.forall_mem_cons] at others
    rw [List.foldlM_cons] at done
    obtain ⟨f, first, rest⟩ := Option.bind_eq_some_iff.1 done
    obtain ⟨o', rfl, same⟩ := inverted_of_editStep others.1 first
    obtain ⟨o'', rfl, same'⟩ := ih others.2 rest
    exact ⟨o'', rfl, same'.trans same⟩

theorem direction_cases {edits : List OptionEdit} (distinct : (edits.map Prod.fst).Nodup) :
    edits.filter (·.1 == directionKey) = [] ∨
      ∃ e, edits.filter (·.1 == directionKey) = [e] ∧ e.1 = directionKey := by
  have sub : ((edits.filter (·.1 == directionKey)).map Prod.fst).Nodup :=
    distinct.sublist (List.filter_sublist.map Prod.fst)
  have keys : ∀ e ∈ edits.filter (·.1 == directionKey), e.1 = directionKey := fun e mem =>
    beq_iff_eq.1 (List.mem_filter.1 mem).2
  generalize edits.filter (·.1 == directionKey) = directions at sub keys
  match directions with
  | [] => exact .inl rfl
  | [e] => exact .inr ⟨e, rfl, keys e List.mem_cons_self⟩
  | e :: e' :: _ =>
    have same : e.1 = e'.1 := (keys e (by simp)).trans (keys e' (by simp)).symm
    simp [same] at sub

theorem directed_eq_run {fields : List (Field (Grep × OptionValue))} {edits : List OptionEdit}
    (distinct : (edits.map Prod.fst).Nodup)
    (agree : ∀ e ∈ edits, ∀ r, ∃ f, fields.find? (·.key.toList == e.1) = some f ∧
      (f.set e.2.toJson r).toOption.map directed = directedStep (directed r) e) :
    ((setMembers fields (edits.map OptionEdit.member) (.default, .flag false)).toOption.map fun r =>
        Filter.grep (r.1.setInverted r.2)) =
      ((Filter.default .grep).run (Tool.directionLast edits)).toOption := by
  have read : (setMembers fields (edits.map OptionEdit.member) (.default, .flag false)).toOption.map
        directed =
      ((edits.filter (·.1 != directionKey)).foldlM editStep (Filter.default .grep)).map fun g =>
        (g, (edits.filter (·.1 == directionKey)).foldl (fun _ e => e.2) (.flag false)) :=
    (setMembers_eq_foldlM directed agree _).trans
      (foldlM_directedStep edits (.default .grep) (.flag false))
  rw [toOption_run, Tool.directionLast, List.foldlM_append]
  cases result : setMembers fields (edits.map OptionEdit.member) (.default, .flag false) with
  | error fault =>
    rw [result] at read
    have refused := Option.map_eq_none_iff.1 read.symm
    rw [refused]
    rfl
  | ok r =>
    obtain ⟨o, v⟩ := r
    rw [result] at read
    obtain ⟨g, taken, shown⟩ := Option.map_eq_some_iff.1 read.symm
    obtain ⟨rfl, rfl⟩ := Prod.mk.inj shown
    rw [taken]
    rcases direction_cases distinct with none | ⟨e, one, key⟩
    · -- Without a direction the match keeps that of the defaults.
      have others : ∀ e ∈ edits.filter (·.1 != directionKey), e.1 ≠ directionKey := fun e mem =>
        bne_iff_ne.1 (List.mem_filter.1 mem).2
      obtain ⟨o', same, plain⟩ := inverted_of_foldlM others taken
      cases same
      have kept : o.setInverted (.flag false) = o := by
        cases o
        cases plain
        rfl
      rw [none]
      exact congrArg (some ∘ Filter.grep) kept
    · obtain ⟨k, value⟩ := e
      cases key
      rw [one]
      rfl

theorem grep_eq_run {edits : List OptionEdit} (distinct : (edits.map Prod.fst).Nodup)
    (known : ∀ e ∈ edits, e.1 ∈ Tool.grep.options.map Prod.fst) :
    (options .grep (.object (edits.map OptionEdit.member))).toOption =
      ((Filter.default .grep).run (Tool.directionLast edits)).toOption := by
  have applied {fields : List (Field (Grep × OptionValue))} {members : List (Text × Json)} :
      (((record "GrepFields" fields (Grep.default, .flag false) (.object members)) >>= fun r =>
          pure (r.1.setInverted r.2)).map Filter.grep).toOption =
        (setMembers fields members (.default, .flag false)).toOption.map fun r =>
          Filter.grep (r.1.setInverted r.2) := by
    rw [record]
    cases setMembers fields members (Grep.default, .flag false) <;> rfl
  refine applied.trans (directed_eq_run distinct fun e mem r => ?_)
  obtain ⟨option, among, key⟩ := List.mem_map.1 (known e mem)
  obtain ⟨k, value⟩ := e
  subst key
  fin_cases among <;> cases value <;> exact ⟨_, rfl, rfl⟩

/-- Members with different keys may be read in any order in which the direction of a match comes
last, which their own order need not be. -/
theorem options_eq_directionLast {tool : Tool} {edits : List OptionEdit}
    (distinct : (edits.map Prod.fst).Nodup)
    (known : ∀ e ∈ edits, e.1 ∈ tool.options.map Prod.fst) :
    (options tool (.object (edits.map OptionEdit.member))).toOption =
      ((Filter.default tool).run (Tool.directionLast edits)).toOption := by
  by_cases single : tool = .grep
  · subst single
    exact grep_eq_run distinct known
  · have absent : directionKey ∉ tool.options.map Prod.fst := by
      cases tool <;> first | exact absurd rfl single | decide
    have others : ∀ e ∈ edits, e.1 ≠ directionKey := fun e mem same =>
      absent (same ▸ known e mem)
    obtain ⟨keep, drop⟩ := Tool.directionLast_of_forall others
    rw [options_eq_run single known, Tool.directionLast, keep, drop, List.append_nil]

/-! ### The whole step -/

/-- An object with options of a tool is read exactly when each of these options could be edited on
the defaults by itself. What is read are then the defaults after the edits in any order with the
direction of a match behind its pattern. The order of two edits matters for no other options, and
for these where the direction brings a pattern of its own. -/
theorem draft_eq_edits (emptyIsUnit : Bool) (tool : Tool) (edits : List OptionEdit)
    (distinct : (edits.map Prod.fst).Nodup)
    (known : ∀ e ∈ edits, e.1 ∈ tool.options.map Prod.fst) (members : List (Text × Json))
    (shape : members.Perm [("type".toList, .string tool.name),
      ("options".toList, .object (edits.map OptionEdit.member))]) :
    ((∃ d, draft emptyIsUnit (.object members) = .ok d) ↔
        ∀ e ∈ edits, ∃ f, (Filter.default tool).edit e.1 e.2 = .ok f) ∧
      (∀ d, draft emptyIsUnit (.object members) = .ok d → d.id = none ∧
        ∀ order : List OptionEdit, order.Perm edits → PatternFirst order →
          (Filter.default tool).run order = .ok d.filter) ∧
      (∀ (f : Filter) (a b : OptionEdit), a.1 ≠ b.1 → ¬ Tied a.1 b.1 →
        ∀ g, f.run [a, b] = .ok g ↔ f.run [b, a] = .ok g) ∧
      ∀ (f : Filter) (t : Text) (value : OptionValue), f.tool = .grep →
        (f.run [(patternKey, .text t), (directionKey, value)] =
            f.run [(directionKey, value), (patternKey, .text t)] ↔
          ∀ u, value = .text u → u = [] ∨ u = t) := by
  obtain ⟨sorted, perm, same⟩ := Json.exists_sortMembers distinct
  have distinct' : (sorted.map Prod.fst).Nodup := (perm.map Prod.fst).nodup_iff.2 distinct
  have known' : ∀ e ∈ sorted, e.1 ∈ tool.options.map Prod.fst := fun e mem =>
    known e (perm.mem_iff.1 mem)
  have read : draft emptyIsUnit (.object members) =
      (options tool (.object (sorted.map OptionEdit.member))).map (⟨none, ·⟩) := by
    rw [draft_eq_filter emptyIsUnit none shape, Json.canonical_members, same]
    rfl
  have asEdits := options_eq_directionLast distinct' known'
  have loaded (f : Filter) : draft emptyIsUnit (.object members) = .ok ⟨none, f⟩ ↔
      (Filter.default tool).run (Tool.directionLast sorted) = .ok f := by
    rw [read]
    revert asEdits
    cases options tool (.object (sorted.map OptionEdit.member)) <;>
      cases (Filter.default tool).run (Tool.directionLast sorted) <;>
        simp [Except.toOption, Except.map]
    rintro rfl
    rfl
  have noId (d : Draft) (done : draft emptyIsUnit (.object members) = .ok d) : d.id = none := by
    rw [read] at done
    cases h : options tool (.object (sorted.map OptionEdit.member)) with
    | error fault => rw [h] at done; cases done
    | ok f => rw [h] at done; cases done; rfl
  refine ⟨?_, ?_, fun f a b ne free g => Filter.run_pair_iff ne free,
    fun f t value isGrep => Filter.run_tied_iff isGrep t value⟩
  · have takes : (∀ e ∈ Tool.directionLast sorted, tool.Takes e.1 e.2) ↔
        ∀ e ∈ edits, tool.Takes e.1 e.2 :=
      forall_congr' fun e => by rw [((Tool.directionLast_perm sorted).trans perm).mem_iff]
    simp only [Filter.exists_edit_eq_ok_iff, Filter.tool_default, ← takes]
    have taken : (∃ f, (Filter.default tool).run (Tool.directionLast sorted) = .ok f) ↔
        ∀ e ∈ Tool.directionLast sorted, (Filter.default tool).tool.Takes e.1 e.2 :=
      Filter.exists_run_eq_ok_iff
    rw [Filter.tool_default] at taken
    rw [← taken]
    constructor
    · rintro ⟨d, done⟩
      obtain ⟨id, f⟩ := d
      cases noId _ done
      exact ⟨f, (loaded f).1 done⟩
    · rintro ⟨f, done⟩
      exact ⟨_, (loaded f).2 done⟩
  · rintro ⟨id, f⟩ done
    cases noId _ done
    refine ⟨rfl, fun order perm' first => ?_⟩
    obtain ⟨takes, isTool, fields⟩ := Filter.run_eq_ok_iff.1 ((loaded f).1 done)
    have perm'' : order.Perm sorted := perm'.trans perm.symm
    have distinct'' : (order.map Prod.fst).Nodup := (perm'.map Prod.fst).nodup_iff.2 distinct
    refine Filter.run_eq_ok_iff.2 ⟨fun e mem => takes e ?_, isTool, ?_⟩
    · exact ((Tool.directionLast_perm sorted).trans perm''.symm).mem_iff.2 mem
    · rw [fields, ← Tool.amended_directionLast_perm perm'' distinct'',
        Tool.amended_directionLast distinct'' first]

/-- A direction that brings a pattern, in front of the pattern among the members. -/
theorem draft_eq_edits_direction :
    let edits : List OptionEdit :=
      [(directionKey, .text ['x']), (['i'], .flag true), (patternKey, .text ['p'])]
    let order : List OptionEdit :=
      [(patternKey, .text ['p']), (directionKey, .text ['x']), (['i'], .flag true)]
    draft false (.object [("type".toList, .string Tool.grep.name),
        ("options".toList, .object (edits.map OptionEdit.member))]) =
      .ok ⟨none, .grep ⟨['x'], true, true, false⟩⟩ ∧
    (Filter.default .grep).run order = .ok (.grep ⟨['x'], true, true, false⟩) ∧
    (Filter.default .grep).run edits = .ok (.grep ⟨['p'], true, true, false⟩) := by
  intro edits order
  obtain ⟨success, loaded, -⟩ :=
    draft_eq_edits false .grep edits (by decide) (by decide) _ (.refl _)
  have single : ∀ e ∈ edits, ∃ f, (Filter.default .grep).edit e.1 e.2 = .ok f := by
    intro e mem
    simp only [edits, List.mem_cons, List.not_mem_nil, or_false] at mem
    rcases mem with rfl | rfl | rfl <;> exact ⟨_, rfl⟩
  obtain ⟨⟨id, f⟩, done⟩ := success.2 single
  obtain ⟨noId, asEdits⟩ := loaded _ done
  have first : PatternFirst order := by unfold PatternFirst; decide
  have run := asEdits order (by decide) first
  cases noId
  cases run
  exact ⟨done, rfl, rfl⟩

end Decode

end Pipework
