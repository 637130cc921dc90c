import Pipework.Shell.Command
import Pipework.Step.Json
import Pipework.Toml.Reader

/-!
The configuration: settings and templates, what an overlay changes in them, and the document they
are dumped as.
-/

set_option autoImplicit false
set_option relaxedAutoImplicit false

namespace Pipework

/-! ## Templates

Templates: the options that a new step of each tool starts with.
-/

structure Templates where
  cut : Cut
  grep : Grep
  sort : LineSort
  head : LineCount
  tail : LineCount
  tr : Tr
  wc : Wc
  awk : Awk
  deriving DecidableEq, Repr

namespace Templates

/-- A cut starts with the first field and a match with a word to search; all else starts with the
defaults of the tools. -/
def default : Templates where
  cut := { Cut.default with fields := ['1'] }
  grep := { Grep.default with pattern := "search".toList }
  sort := .default
  head := .default
  tail := .default
  tr := .default
  wc := .default
  awk := .default

def filter (t : Templates) : Tool → Filter
  | .cut => .cut t.cut
  | .grep => .grep t.grep
  | .sort => .sort t.sort
  | .uniq => .uniq
  | .head => .head t.head
  | .tail => .tail t.tail
  | .tr => .tr t.tr
  | .wc => .wc t.wc
  | .awk => .awk t.awk

@[simp] theorem tool_filter (t : Templates) (tool : Tool) : (t.filter tool).tool = tool := by
  cases tool <;> rfl

end Templates

namespace Decode

/-- The templates as the fields of a record; `adapt` prepares the value of a tool's options. -/
def templateFields (adapt : Tool → Json → Json) : List (Field Templates) :=
  [field "cut" (fun j => cut (adapt .cut j)) fun t o => { t with cut := o },
   field "grep" (fun j => grep (adapt .grep j)) fun t o => { t with grep := o },
   field "sort" (fun j => sort (adapt .sort j)) fun t o => { t with sort := o },
   field "head" (fun j => count (adapt .head j)) fun t o => { t with head := o },
   field "tail" (fun j => count (adapt .tail j)) fun t o => { t with tail := o },
   field "tr" (fun j => tr (adapt .tr j)) fun t o => { t with tr := o },
   field "wc" (fun j => wc (adapt .wc j)) fun t o => { t with wc := o },
   field "awk" (fun j => awk (adapt .awk j)) fun t o => { t with awk := o }]

def templates : Decoder Templates :=
  record "Templates" (templateFields fun _ j => j) .default

end Decode

/-! ## Settings -/

structure Settings where
  /-- The first stage of every command, which reads the input. -/
  source : Text
  /-- Whether every stage has a line of its own unless a request says otherwise. -/
  format : Bool
  /-- What stands in front of the later stages when each has a line of its own. -/
  indent : Text
  /-- The name of the most verbose level shown on the terminal. -/
  logLevel : Text
  /-- The file with a line for every request; blank for none. -/
  historyLog : Text
  deriving DecidableEq, Repr

def Settings.default : Settings where
  source := "cat YOUR_FILE.csv".toList
  format := false
  indent := [' ', ' ']
  logLevel := "warn".toList
  historyLog := "~/.local/share/pipesmith/history.log".toList

def Settings.serializer (s : Settings) : Shell.Serializer := ⟨s.source, s.indent⟩

structure Configuration where
  settings : Settings
  templates : Templates
  deriving DecidableEq, Repr

def Configuration.default : Configuration := ⟨.default, .default⟩

/-! ## Overlays

A setting that is present takes the place of the old one. A template that is present takes the
place of the whole old template; options it leaves out have the tool's defaults.
-/

namespace Decode

/-- A record whose missing keys keep their values. As an array it must be complete; further
items are passed over. -/
def amended {ρ : Type} (name : String) (fields : List (Field ρ)) (old : ρ) : Decoder ρ
  | .array items =>
    if items.length < fields.length then .error (.invalidLength items.length ("struct " ++ name))
    else setItems fields items old
  | j => record name fields old j

def settingFields : List (Field Settings) :=
  [field "source" text fun s t => { s with source := t },
   field "format" flag fun s b => { s with format := b },
   field "indent" text fun s t => { s with indent := t },
   field "log_level" text fun s t => { s with logLevel := t },
   field "history_log" text fun s t => { s with historyLog := t }]

/-- No more items of an array than the options of a tool have fields. -/
def clip (tool : Tool) : Json → Json
  | .array items => .array (items.take (Filter.default tool).fields.length)
  | j => j

def configurationFields : List (Field Configuration) :=
  [⟨"settings", fun j c =>
    (amended "SettingsOverlay" settingFields c.settings j).map fun s => { c with settings := s }⟩,
   ⟨"templates", fun j c =>
    (amended "TemplatesOverlay" (templateFields clip) c.templates j).map fun t =>
      { c with templates := t }⟩]

end Decode

namespace Configuration

def overlay? (c : Configuration) (text : Text) : Option Configuration := do
  let table ← Toml.Table.ofText? text
  (Decode.setMembers Decode.configurationFields (Toml.entriesJson table) c).toOption

/-- The configuration changed by an overlay; one that cannot be read changes nothing. -/
def overlay (c : Configuration) (text : Text) : Configuration := (c.overlay? text).getD c

end Configuration

/-! ## Dumping

The whole configuration as a TOML document: a section for the settings and one for every
template.
-/

def Settings.fields (s : Settings) : List (Text × OptionValue) :=
  [("source".toList, .text s.source), ("format".toList, .flag s.format),
   ("indent".toList, .text s.indent), ("log_level".toList, .text s.logLevel),
   ("history_log".toList, .text s.historyLog)]

def OptionValue.toToml : OptionValue → Text
  | .flag b => Toml.writeBoolean b
  | .text t => Toml.writeString t

namespace Configuration

def sectionText (path : List Text) (fields : List (Text × OptionValue)) : Text :=
  Toml.writeHeader path ++ fields.flatMap fun field => Toml.writeEntry field.1 field.2.toToml

def templated : List Tool := Tool.all.filter (· != .uniq)

def dump (c : Configuration) : Text :=
  Text.join ['\n'] (sectionText ["settings".toList] c.settings.fields ::
    templated.map fun tool =>
      sectionText ["templates".toList, tool.name] (c.templates.filter tool).fields)

end Configuration

end Pipework
