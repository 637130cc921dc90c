import Pipework.Regex.Compile
import Pipework.Shell.Arguments

/-!
The nine tools by name, and those of them that choose, order or count whole lines.
-/

set_option autoImplicit false
set_option relaxedAutoImplicit false

namespace Pipework

/-! ## Names

The nine tools by name, and the values and faults of their options.
-/

inductive Tool
  | cut
  | grep
  | sort
  | uniq
  | head
  | tail
  | tr
  | wc
  | awk
  deriving DecidableEq, Repr

namespace Tool

/-- Every tool, in the order an editor lists them. -/
def all : List Tool := [.cut, .grep, .sort, .uniq, .head, .tail, .tr, .wc, .awk]

def name : Tool → Text
  | .cut => ['c', 'u', 't']
  | .grep => ['g', 'r', 'e', 'p']
  | .sort => ['s', 'o', 'r', 't']
  | .uniq => ['u', 'n', 'i', 'q']
  | .head => ['h', 'e', 'a', 'd']
  | .tail => ['t', 'a', 'i', 'l']
  | .tr => ['t', 'r']
  | .wc => ['w', 'c']
  | .awk => ['a', 'w', 'k']

def ofName? (t : Text) : Option Tool := all.find? fun tool => tool.name == t

theorem ofName?_name (tool : Tool) : ofName? tool.name = some tool := by cases tool <;> rfl

end Tool

/-- What a form sends for an option: a checkbox or a line of text. -/
inductive OptionValue
  | flag (b : Bool)
  | text (t : Text)
  deriving DecidableEq, Repr

inductive OptionFault
  /-- The tool has no option of that key. -/
  | unknownKey
  | expectsFlag
  | expectsText
  deriving DecidableEq, Repr

def OptionValue.asFlag : OptionValue → Except OptionFault Bool
  | .flag b => .ok b
  | .text _ => .error .expectsFlag

def OptionValue.asText : OptionValue → Except OptionFault Text
  | .text t => .ok t
  | .flag _ => .error .expectsText

/-! ## Matching lines

`grep`: the lines that match a pattern, or those that do not.
-/

structure Grep where
  pattern : Text
  ignoreCase : Bool
  /-- Keep the lines that do not match. -/
  inverted : Bool
  /-- The pattern is a plain text and no regular expression. -/
  fixed : Bool
  deriving DecidableEq, Repr

namespace Grep

def default : Grep := ⟨[], false, false, false⟩

/-- Set the direction of the match by a flag, or by a text: one that is not empty becomes the
pattern of an inverted match, an empty one leaves a plain match. -/
def setInverted (o : Grep) : OptionValue → Grep
  | .flag b => { o with inverted := b }
  | .text [] => { o with inverted := false }
  | .text t => { o with pattern := t, inverted := true }

def set (o : Grep) (key : Text) (value : OptionValue) : Except OptionFault Grep :=
  if key = "pattern".toList then value.asText.map fun t => { o with pattern := t }
  else if key = ['i'] then value.asFlag.map fun b => { o with ignoreCase := b }
  else if key = ['F'] then value.asFlag.map fun b => { o with fixed := b }
  else if key = ['v'] then .ok (o.setInverted value)
  else .error .unknownKey

def compile (o : Grep) : Except Regex.CompileError Regex.Pattern :=
  if o.fixed then Regex.compileLiteral o.ignoreCase o.pattern
  else Regex.compile o.ignoreCase o.pattern

def apply (o : Grep) (lines : List Text) : Except Regex.CompileError (List Text) :=
  o.compile.map fun p => lines.filter fun line => p.matchesIn line != o.inverted

/-- The command. A pattern that starts with a hyphen is written after a flag of its own. -/
def render (o : Grep) : Text :=
  Tool.grep.name ++ (if o.ignoreCase then " -i".toList else []) ++
    (if o.inverted then " -v".toList else []) ++ (if o.fixed then " -F".toList else []) ++
    (if Shell.isHyphenated o.pattern then " -e".toList else []) ++ ' ' :: Shell.quote o.pattern

/-- The flags that take no value. -/
def switches : Text := ['i', 'v', 'F']

/-- The options that the words of a command give: the first positional word that is not empty is
the pattern, otherwise the value of `-e`. -/
def ofArguments (args : Shell.Arguments) : Grep :=
  let words := args.positionals.map Shell.Positional.value
  let text := ((words.find? (!·.isEmpty)).orElse fun _ => args.value? 'e').getD []
  ⟨text, args.isSet 'i', args.isSet 'v', args.isSet 'F'⟩

end Grep

/-! ## Order and repetition

`sort` orders the lines by their code points; `uniq` keeps one of neighbouring equal lines.
-/

structure LineSort where
  /-- From the last line to the first. -/
  reversed : Bool
  deriving DecidableEq, Repr

namespace LineSort

def default : LineSort := ⟨false⟩

def set (o : LineSort) (key : Text) (value : OptionValue) : Except OptionFault LineSort :=
  if key = ['r'] then value.asFlag.map fun b => { o with reversed := b }
  else .error .unknownKey

def apply (o : LineSort) (lines : List Text) : List Text :=
  let sorted := lines.mergeSort Text.le
  if o.reversed then sorted.reverse else sorted

def render (o : LineSort) : Text := Tool.sort.name ++ if o.reversed then " -r".toList else []

def switches : Text := ['r']

def ofArguments (args : Shell.Arguments) : LineSort := ⟨args.isSet 'r'⟩

end LineSort

def Uniq.apply : List Text → List Text
  | a :: b :: rest => if a = b then Uniq.apply (b :: rest) else a :: Uniq.apply (b :: rest)
  | lines => lines

def Uniq.render : Text := Tool.uniq.name

/-! ## First and last lines

`head` and `tail`: as many lines from the start or the end as a count says.

The count is kept as it was typed. A text that is no count of a machine word means ten.
-/

structure LineCount where
  n : Text
  deriving DecidableEq, Repr

namespace LineCount

def usual : Nat := 10

def default : LineCount := ⟨['1', '0']⟩

def set (o : LineCount) (key : Text) (value : OptionValue) : Except OptionFault LineCount :=
  if key = ['n'] then value.asText.map fun t => { o with n := t } else .error .unknownKey

def count (o : LineCount) : Nat := (Text.readWord? (Text.trim o.n)).getD usual

def render (tool : Tool) (o : LineCount) : Text :=
  tool.name ++ " -n ".toList ++ Text.ofNat o.count

def ofArguments (args : Shell.Arguments) : LineCount :=
  match args.value? 'n' with
  | some t => ⟨t⟩
  | none => default

end LineCount

def Head.apply (o : LineCount) (lines : List Text) : List Text := lines.take o.count

def Tail.apply (o : LineCount) (lines : List Text) : List Text :=
  lines.drop (lines.length - o.count)

/-! ## Counts

`wc`: the numbers of lines, words and characters, on one line with tabs between them.
-/

/-- The options of `wc`; without any, all three are counted. -/
structure Wc where
  lines : Bool
  words : Bool
  chars : Bool
  deriving DecidableEq, Repr

namespace Wc

def default : Wc := ⟨false, false, false⟩

def set (o : Wc) (key : Text) (value : OptionValue) : Except OptionFault Wc :=
  if key = ['l'] then value.asFlag.map fun b => { o with lines := b }
  else if key = ['w'] then value.asFlag.map fun b => { o with words := b }
  else if key = ['c'] then value.asFlag.map fun b => { o with chars := b }
  else .error .unknownKey

def countsAll (o : Wc) : Bool := !(o.lines || o.words || o.chars)

def counts (o : Wc) (lines words chars : Nat) : List Nat :=
  (if o.countsAll || o.lines then [lines] else []) ++
    (if o.countsAll || o.words then [words] else []) ++
    (if o.countsAll || o.chars then [chars] else [])

/-- Words are counted in the lines and characters in the text they make up. -/
def apply (o : Wc) (lines : List Text) (text : Text) : List Text :=
  let words := (lines.flatMap Text.words).length
  [Text.join ['\t'] ((o.counts lines.length words text.length).map Text.ofNat)]

def render (o : Wc) : Text :=
  Tool.wc.name ++ (if o.lines then " -l".toList else []) ++
    (if o.words then " -w".toList else []) ++ (if o.chars then " -c".toList else [])

def switches : Text := ['l', 'w', 'c']

def ofArguments (args : Shell.Arguments) : Wc := ⟨args.isSet 'l', args.isSet 'w', args.isSet 'c'⟩

end Wc

end Pipework
