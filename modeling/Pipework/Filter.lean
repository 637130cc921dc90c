import Pipework.Tool.Fields

/-!
A filter is a tool together with its options; a preview runs filters over a text.
-/

set_option autoImplicit false
set_option relaxedAutoImplicit false

namespace Pipework

/-! ## Filters

A filter can be applied to lines, written as a command, read from the words of a command, and
edited option by option.
-/

inductive Filter
  | cut (o : Cut)
  | grep (o : Grep)
  | sort (o : LineSort)
  | uniq
  | head (o : LineCount)
  | tail (o : LineCount)
  | tr (o : Tr)
  | wc (o : Wc)
  | awk (o : Awk)
  deriving DecidableEq, Repr

inductive FilterError
  /-- The options are in order but the preview cannot run them. -/
  | unavailable
  | pattern (e : Regex.CompileError)
  deriving DecidableEq

def FilterError.message : FilterError → Text
  | .unavailable => "preview not available for this program".toList
  | .pattern e => e.message

namespace Filter

def tool : Filter → Tool
  | .cut _ => .cut
  | .grep _ => .grep
  | .sort _ => .sort
  | .uniq => .uniq
  | .head _ => .head
  | .tail _ => .tail
  | .tr _ => .tr
  | .wc _ => .wc
  | .awk _ => .awk

def default : Tool → Filter
  | .cut => .cut .default
  | .grep => .grep .default
  | .sort => .sort .default
  | .uniq => .uniq
  | .head => .head .default
  | .tail => .tail .default
  | .tr => .tr .default
  | .wc => .wc .default
  | .awk => .awk .default

def set (f : Filter) (key : Text) (value : OptionValue) : Except OptionFault Filter :=
  match f with
  | .cut o => (o.set key value).map .cut
  | .grep o => (o.set key value).map .grep
  | .sort o => (o.set key value).map .sort
  | .uniq => .error .unknownKey
  | .head o => (o.set key value).map .head
  | .tail o => (o.set key value).map .tail
  | .tr o => (o.set key value).map .tr
  | .wc o => (o.set key value).map .wc
  | .awk o => (o.set key value).map .awk

/-- The lines a filter makes of lines; `text` is what they were cut from. -/
def apply (f : Filter) (lines : List Text) (text : Text) : Except FilterError (List Text) :=
  match f with
  | .cut o => .ok (o.apply lines)
  | .grep o => (o.apply lines).mapError .pattern
  | .sort o => .ok (o.apply lines)
  | .uniq => .ok (Uniq.apply lines)
  | .head o => .ok (Head.apply o lines)
  | .tail o => .ok (Tail.apply o lines)
  | .tr o => .ok (o.apply lines)
  | .wc o => .ok (o.apply lines text)
  | .awk o =>
    match o.print? lines with
    | some printed => .ok printed
    | none => .error .unavailable

def render : Filter → Text
  | .cut o => o.render
  | .grep o => o.render
  | .sort o => o.render
  | .uniq => Uniq.render
  | .head o => o.render .head
  | .tail o => o.render .tail
  | .tr o => o.render
  | .wc o => o.render
  | .awk o => o.render

def ofArguments (args : Shell.Arguments) : Tool → Filter
  | .cut => .cut (.ofArguments args)
  | .grep => .grep (.ofArguments args)
  | .sort => .sort (.ofArguments args)
  | .uniq => .uniq
  | .head => .head (.ofArguments args)
  | .tail => .tail (.ofArguments args)
  | .tr => .tr (.ofArguments args)
  | .wc => .wc (.ofArguments args)
  | .awk => .awk (.ofArguments args)

def fields : Filter → List (Text × OptionValue)
  | .cut o => [(['d'], .text o.delimiter), (['f'], .text o.fields)]
  | .grep o =>
    [("pattern".toList, .text o.pattern), (['i'], .flag o.ignoreCase), (['v'], .flag o.inverted),
     (['F'], .flag o.fixed)]
  | .sort o => [(['r'], .flag o.reversed)]
  | .uniq => []
  | .head o => [(['n'], .text o.n)]
  | .tail o => [(['n'], .text o.n)]
  | .tr o =>
    [("set1".toList, .text o.set1), ("set2".toList, .text o.set2), (['d'], .flag o.delete),
     (['s'], .flag o.squeeze)]
  | .wc o => [(['l'], .flag o.lines), (['w'], .flag o.words), (['c'], .flag o.chars)]
  | .awk o => [(['F'], .text o.separator), ("program".toList, .text o.program)]

@[simp] theorem tool_default (t : Tool) : (default t).tool = t := by cases t <;> rfl

end Filter

/-- The flags of a tool that take no value. -/
def Tool.switches : Tool → Text
  | .grep => Grep.switches
  | .sort => LineSort.switches
  | .tr => Tr.switches
  | .wc => Wc.switches
  | .cut | .uniq | .head | .tail | .awk => []

def Tool.isSwitch (tool : Tool) (c : Char) : Bool := tool.switches.contains c

/-! ## Previews

Every filter sees the lines the one before it made, and the text they join to. The first filter
that fails ends the run with an error that names its tool.
-/

inductive PreviewError
  /-- The filter is in order but too complex to run; its command is right all the same. -/
  | unavailable (tool : Tool)
  | failed (tool : Tool) (message : Text)
  deriving DecidableEq, Repr

namespace PreviewError

def tool : PreviewError → Tool
  | .unavailable tool => tool
  | .failed tool _ => tool

def message : PreviewError → Text
  | .unavailable tool =>
    "Error: Preview not available for complex ".toList ++ tool.name ++
      " programs. Check the generated command.".toList
  | .failed tool message =>
    "Error: step '".toList ++ tool.name ++ "' failed: ".toList ++ message

def ofFilter (tool : Tool) : FilterError → PreviewError
  | .unavailable => .unavailable tool
  | .pattern e => .failed tool e.message

end PreviewError

namespace Preview

/-- Run filters over lines that were cut from a text. -/
def runFrom : List Text → Text → List Filter → Except PreviewError Text
  | _, text, [] => .ok text
  | lines, text, f :: rest =>
    match f.apply lines text with
    | .ok next => runFrom next (Text.join ['\n'] next) rest
    | .error e => .error (.ofFilter f.tool e)

def run (raw : Text) (filters : List Filter) : Except PreviewError Text :=
  runFrom (Text.lines raw) raw filters

def evaluate (raw : Text) (filters : List Filter) : Text :=
  match run raw filters with
  | .ok text => text
  | .error e => e.message

end Preview

end Pipework
