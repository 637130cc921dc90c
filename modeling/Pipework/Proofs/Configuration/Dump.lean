import Pipework.Proofs.Step.Codec
import Pipework.Proofs.Toml.Documents
import Pipework.Program.Run

/-!
A dumped configuration as an overlay.

The document names every setting and every template, so that as an overlay it gives its
configuration whatever is below it (`overlay?_dump`).
-/

set_option autoImplicit false
set_option relaxedAutoImplicit false

namespace Pipework

open Toml (SectionFields IsBareKey Table)

/-! ### The document -/

def Settings.keys : List Text :=
  ["source".toList, "format".toList, "indent".toList, "log_level".toList, "history_log".toList]

theorem Settings.map_fst_fields (s : Settings) : s.fields.map Prod.fst = Settings.keys := rfl

theorem Settings.bare_fields (s : Settings) : ∀ field ∈ s.fields, IsBareKey field.1 := by
  have bare : ∀ k ∈ Settings.keys, IsBareKey k := by decide
  intro field mem
  refine bare field.1 ?_
  rw [← s.map_fst_fields]
  exact List.mem_map_of_mem mem

theorem Settings.nodup_fields (s : Settings) : (s.fields.map Prod.fst).Nodup := by
  rw [s.map_fst_fields]
  decide

theorem Tool.bare_name (tool : Tool) : IsBareKey tool.name := by
  cases tool <;> decide

theorem Filter.bare_fields (f : Filter) : ∀ field ∈ f.fields, IsBareKey field.1 := by
  have bare : ∀ k ∈ f.tool.options.map Prod.fst, IsBareKey k := by
    cases f.tool <;> decide
  intro field mem
  refine bare field.1 ?_
  rw [← f.map_fst_fields]
  exact List.mem_map_of_mem mem

namespace Configuration

def optionsOf (c : Configuration) (tool : Tool) : List OptionEdit :=
  (c.templates.filter tool).fields

def sections (c : Configuration) : List SectionFields :=
  (["settings".toList], c.settings.fields) ::
    templated.map fun tool => (["templates".toList, tool.name], c.optionsOf tool)

theorem dump_eq_document (c : Configuration) : c.dump = SectionFields.document c.sections := by
  simp [dump, SectionFields.document, SectionFields.text, sections, optionsOf, Function.comp_def]

theorem bare_sections (c : Configuration) : ∀ s ∈ c.sections, s.Bare := by
  have settings : ∀ k ∈ ["settings".toList], IsBareKey k := by decide
  have templates : IsBareKey "templates".toList := by decide
  intro s mem
  rcases List.mem_cons.1 mem with rfl | mem
  · exact ⟨by simp, (by decide : 1 < Toml.depthLimit), settings, c.settings.bare_fields⟩
  · obtain ⟨tool, -, rfl⟩ := List.mem_map.1 mem
    refine ⟨by simp, (by decide : 2 < Toml.depthLimit), ?_, (c.templates.filter tool).bare_fields⟩
    exact List.forall_mem_cons.2 ⟨templates, List.forall_mem_singleton.2 tool.bare_name⟩

def table (c : Configuration) : Table :=
  [("settings".toList, .table .header (Table.ofFields c.settings.fields)),
   ("templates".toList,
    Table.group (templated.map fun tool => (tool.name, Table.ofFields (c.optionsOf tool))))]

theorem nodup_ofFields {fields : List OptionEdit} (distinct : (fields.map Prod.fst).Nodup) :
    ((Table.ofFields fields).map Prod.fst).Nodup := by
  simpa [Table.ofFields, Function.comp_def] using distinct

theorem ofText?_dump (c : Configuration) : Table.ofText? c.dump = some c.table := by
  have names : (templated.map Tool.name).Nodup := by decide
  have settings : Table.openSection false (Table.ofFields c.settings.fields).entries
      ["settings".toList] [] =
        some [("settings".toList, .table .header (Table.ofFields c.settings.fields))] :=
    Table.openSection_single List.not_mem_nil (nodup_ofFields c.settings.nodup_fields)
  have templates : Table.openGroup "templates".toList
      (templated.map fun tool => (tool.name, Table.ofFields (c.optionsOf tool)))
      [("settings".toList, .table .header (Table.ofFields c.settings.fields))] = some c.table := by
    refine Table.openGroup_fresh ?_ ?_ ?_ ?_
    · exact (by decide : "templates".toList ∉ ["settings".toList])
    · have some : templated ≠ [] := by decide
      simpa using some
    · simpa [Function.comp_def] using names
    · intro t mem
      obtain ⟨tool, -, rfl⟩ := List.mem_map.1 mem
      exact nodup_ofFields (c.templates.filter tool).nodup_fields
  rw [dump_eq_document, SectionFields.ofText?_document c.bare_sections, sections, List.foldlM_cons,
    SectionFields.entries, settings, Option.bind_eq_bind, Option.bind_some, List.foldlM_map]
  rw [Table.openGroup, List.foldlM_map] at templates
  exact templates

theorem entriesJson_ofFields (fields : List OptionEdit) :
    Toml.entriesJson (Table.ofFields fields) = fields.map OptionEdit.member := by
  induction fields with
  | nil => rfl
  | cons field fields ih =>
    obtain ⟨key, value⟩ := field
    have head : value.toValue.toJson = value.toJson := by cases value <;> rfl
    rw [Table.ofFields, List.map_cons, Toml.entriesJson, ← Table.ofFields, ih, head]
    rfl

theorem toJson_group (tables : List (Text × Table)) : (Table.group tables).toJson =
    .object (tables.map fun t => (t.1, .object (Toml.entriesJson t.2))) := by
  rw [Table.group, Toml.Value.toJson]
  congr 1
  induction tables with
  | nil => rfl
  | cons t tables ih => rw [List.map_cons, Toml.entriesJson, ih]; rfl

theorem entriesJson_table (c : Configuration) : Toml.entriesJson c.table =
    [("settings".toList, .object (c.settings.fields.map OptionEdit.member)),
     ("templates".toList, .object (templated.map fun tool =>
       (tool.name, .object ((c.optionsOf tool).map OptionEdit.member))))] := by
  simp only [table, Toml.entriesJson, Toml.Value.toJson, entriesJson_ofFields, toJson_group,
    List.map_map, Function.comp_def]

end Configuration

/-! ### The overlay -/

namespace Decode

theorem setMembers_settings (old s : Settings) :
    setMembers settingFields (s.fields.map OptionEdit.member) old = .ok s := rfl

theorem setMembers_templates (c : Configuration) (old : Templates) :
    setMembers (templateFields clip) (Configuration.templated.map fun tool =>
       (tool.name, .object ((c.optionsOf tool).map OptionEdit.member))) old =
      .ok c.templates := rfl

theorem setMembers_configuration {base : Configuration} {settings templates : List (Text × Json)}
    {s : Settings} {t : Templates} (first : setMembers settingFields settings base.settings = .ok s)
    (second : setMembers (templateFields clip) templates base.templates = .ok t) :
    setMembers configurationFields
      [("settings".toList, .object settings), ("templates".toList, .object templates)] base =
        .ok ⟨s, t⟩ := by
  show ((setMembers settingFields settings base.settings).map fun s => { base with settings := s })
    >>= (fun c => ((setMembers (templateFields clip) templates c.templates).map fun t =>
      { c with templates := t }) >>= .ok) = _
  rw [first]
  show (setMembers (templateFields clip) templates base.templates).map _ >>= .ok = _
  rw [second]
  rfl

end Decode

namespace Configuration

theorem overlay?_dump (base c : Configuration) : base.overlay? c.dump = some c := by
  have read :
      Decode.setMembers Decode.configurationFields (Toml.entriesJson c.table) base = .ok c := by
    rw [entriesJson_table]
    exact Decode.setMembers_configuration (Decode.setMembers_settings ..)
      (Decode.setMembers_templates ..)
  rw [overlay?, ofText?_dump, Option.bind_eq_bind, Option.bind_some, read]
  rfl

end Configuration

namespace Program

/-- The configuration that is loaded from a disk. -/
def loaded (home : Text) (path : Option Text) (d : Disk) : Configuration :=
  (loadConfiguration (Host.disk home) path d).1

theorem loaded_of_read {home : Text} {path : Option Text} {d : Disk} {t : Text}
    (found : d.read (Text.expandHome home (path.getD usualOverlay)) = some t) :
    loaded home path d = Configuration.default.overlay t := by
  simp only [loaded, loadConfiguration, Host.disk, bind, StateT.bind, found]
  rfl

theorem run_dump {arguments : List Text} {o : CommandLine.Options}
    (read : CommandLine.read arguments = .ok (.run o)) (dump : o.dump = true) (home : Text)
    (supply : IdSupply) (d : Disk) :
    (run (Host.disk home) supply arguments d).1 = .printed (loaded home o.config d).dump := by
  simp only [run, read, dump, if_true]
  rfl

end Program

open Program in
/-- Whatever configuration a dump is put over, it gives the configuration that was dumped. So does
a run of the program on a file with the output of a run that dumps, and dumps the same text. -/
theorem Configuration.dump_complete :
    (∀ base c : Configuration, base.overlay? c.dump = some c) ∧
      (∀ (base below : Configuration) (t : Text),
        below.overlay (base.overlay t).dump = base.overlay t ∧
          (below.overlay (base.overlay t).dump).dump = (base.overlay t).dump) ∧
      ∀ (home : Text) (supply : IdSupply) (arguments again : List Text)
        (o o' : CommandLine.Options) (d d' : Disk),
        CommandLine.read arguments = .ok (.run o) → o.dump = true →
        CommandLine.read again = .ok (.run o') → o'.dump = true →
        d'.read (Text.expandHome home (o'.config.getD usualOverlay)) =
          some (run (Host.disk home) supply arguments d).1.output →
        loaded home o'.config d' = loaded home o.config d ∧
          (run (Host.disk home) supply again d').1 =
            (run (Host.disk home) supply arguments d).1 := by
  have laid (base c : Configuration) : base.overlay c.dump = c := by
    rw [overlay, overlay?_dump]
    rfl
  refine ⟨overlay?_dump, fun base below t => ⟨laid below _, by rw [laid]⟩, ?_⟩
  intro home supply arguments again o o' d d' first dump second dump' written
  rw [run_dump first dump] at written ⊢
  have same : loaded home o'.config d' = loaded home o.config d :=
    (loaded_of_read written).trans (laid ..)
  rw [run_dump second dump', same]
  exact ⟨rfl, rfl⟩

open Program in
/-- An indent of a tab and quotes of both kinds, from the usual overlay by way of a dump. -/
theorem Configuration.dump_complete_indent :
    let home := "/u".toList
    let supply : IdSupply := fun n => ⟨0, n.toUInt64⟩
    let overlay := "[settings]\nindent = '''\t'\"'''\n".toList
    let path := ["u".toList, ".config".toList, "pipesmith".toList, "config.toml".toList]
    let first :=
      (run (Host.disk home) supply ["--dump-config".toList] ⟨[], [(path, overlay)], []⟩).1
    let second : Disk := ⟨[], [(["dump".toList], first.output)], []⟩
    (loaded home (some "/dump".toList) second).settings.indent = ['\t', '\'', '\x22'] ∧
      (run (Host.disk home) supply ["--dump-config".toList, "--config=/dump".toList] second).1 =
        first := by
  intro home supply overlay path first second
  have indent : (loaded home none ⟨[], [(path, overlay)], []⟩).settings.indent =
      ['\t', '\'', '\x22'] := by decide +kernel
  have written (t : Text) : Disk.read ⟨[], [(["dump".toList], t)], []⟩
      (Text.expandHome home "/dump".toList) = some t := rfl
  have dumps : CommandLine.read ["--dump-config".toList] = .ok (.run ⟨none, true, false⟩) := by
    decide +kernel
  have dumps' : CommandLine.read ["--dump-config".toList, "--config=/dump".toList] =
      .ok (.run ⟨some "/dump".toList, true, false⟩) := by decide +kernel
  obtain ⟨same, again⟩ := Configuration.dump_complete.2.2 home supply _ _ _ _
    ⟨[], [(path, overlay)], []⟩ second dumps rfl dumps' rfl (written first.output)
  exact ⟨by rw [same, indent], again⟩

end Pipework
