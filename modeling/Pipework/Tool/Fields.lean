import Pipework.Tool.Lines

/-!
The tools that change what stands in a line: its fields or its characters.
-/

set_option autoImplicit false
set_option relaxedAutoImplicit false

namespace Pipework

/-! ## Fields by number

`cut`: the fields of every line that a list names, in the order of the list.

An entry of the list that is no positive number, or lies beyond the last field, gives an empty
field. The fields are joined by the delimiter they were cut at.
-/

structure Cut where
  /-- What the fields are cut at; a tab may be written as two characters. -/
  delimiter : Text
  /-- Numbers from one, with commas between them. -/
  fields : Text
  deriving DecidableEq, Repr

namespace Cut

def default : Cut := ⟨[','], []⟩

def set (o : Cut) (key : Text) (value : OptionValue) : Except OptionFault Cut :=
  if key = ['d'] then value.asText.map fun t => { o with delimiter := t }
  else if key = ['f'] then value.asText.map fun t => { o with fields := t }
  else .error .unknownKey

/-- The delimiter in force: a tab for both of its spellings, a comma for an empty one. -/
def separator (o : Cut) : Text :=
  if Shell.isTab o.delimiter then ['\t']
  else if o.delimiter.isEmpty then [',']
  else o.delimiter

/-- The number of an entry of the field list, if it names a field. -/
def fieldNumber? (t : Text) : Option Nat := (Text.readWord? (Text.trim t)).filter (0 < ·)

def entries (o : Cut) : List (Option Nat) := (Text.splitOn ',' o.fields).map fieldNumber?

def pick (parts : List Text) (entry : Option Nat) : Text :=
  ((entry.bind fun n => parts[n - 1]?).getD [])

def project (separator : Text) (entries : List (Option Nat)) (line : Text) : Text :=
  Text.join separator (entries.map (pick (Text.splitAtText separator line)))

def apply (o : Cut) (lines : List Text) : List Text :=
  lines.map (project o.separator o.entries)

def render (o : Cut) : Text :=
  Tool.cut.name ++ " -d ".toList ++ Shell.quoteDelimiter o.separator ++ " -f ".toList ++
    Shell.quote o.fields

def ofArguments (args : Shell.Arguments) : Cut :=
  ⟨(args.value? 'd').getD default.delimiter, (args.value? 'f').getD default.fields⟩

end Cut

/-! ## Fields by a print clause

`awk` with a program of one clause that prints fields.

Other programs are written to the command as they are but cannot be run here. Field zero is the
whole line, and a field beyond the last one is empty.
-/

structure Awk where
  /-- What fields are cut at; empty for runs of blanks. -/
  separator : Text
  program : Text
  deriving DecidableEq, Repr

namespace Awk

def usualProgram : Text := "\x7b print $0 \x7d".toList

def default : Awk := ⟨[], usualProgram⟩

def set (o : Awk) (key : Text) (value : OptionValue) : Except OptionFault Awk :=
  if key = ['F'] then value.asText.map fun t => { o with separator := t }
  else if key = "program".toList then value.asText.map fun t => { o with program := t }
  else .error .unknownKey

/-- The program in force; a blank one means the usual one. -/
def effectiveProgram (o : Awk) : Text :=
  if Text.isBlankText o.program then usualProgram else o.program

def closes (t : Text) : Bool :=
  match t with
  | '\x7d' :: rest => Text.isBlankText rest
  | _ => false

/-- The fields of a print clause from the first dollar sign on: digits, then a comma and a next
field, or the end of the clause. Digits of every script are taken, but those that are not ASCII,
like a number beyond a machine word, name no field. -/
def fieldsFrom : Nat → Text → Option (List (Option Nat))
  | fuel + 1, '$' :: rest =>
    let digits := rest.takeWhile Unicode.isDigit
    let behind := Text.trimLeft (rest.dropWhile Unicode.isDigit)
    if digits.isEmpty then none
    else if closes behind then some [Text.readWord? digits]
    else match behind with
      | ',' :: next => (fieldsFrom fuel (Text.trimLeft next)).map (Text.readWord? digits :: ·)
      | _ => none
  | _, _ => none

/-- The fields that a program prints, if it is one clause that prints fields. -/
def printFields? (program : Text) : Option (List (Option Nat)) :=
  match Text.trimLeft program with
  | '\x7b' :: rest =>
    match Text.trimLeft rest with
    | 'p' :: 'r' :: 'i' :: 'n' :: 't' :: c :: clause =>
      if Text.isBlank c then fieldsFrom clause.length (Text.trimLeft clause) else none
    | _ => none
  | _ => none

def splitFields (separator line : Text) : List Text :=
  if Shell.isTab separator then Text.splitOn '\t' line
  else if separator.isEmpty then Text.words line
  else Text.splitAtText separator line

def field (line : Text) (parts : List Text) : Option Nat → Text
  | some 0 => line
  | some (n + 1) => (parts[n]?).getD []
  | none => []

def project (separator : Text) (fields : List (Option Nat)) (line : Text) : Text :=
  Text.join [' '] (fields.map (field line (splitFields separator line)))

def print? (o : Awk) (lines : List Text) : Option (List Text) :=
  (printFields? o.effectiveProgram).map fun fields => lines.map (project o.separator fields)

def render (o : Awk) : Text :=
  Tool.awk.name ++
    (if o.separator.isEmpty then [] else " -F ".toList ++ Shell.quoteDelimiter o.separator) ++
    ' ' :: Shell.quote o.effectiveProgram

/-- Set in single quotes as a whole. -/
def isQuotedProgram (p : Shell.Positional) : Bool :=
  2 ≤ p.raw.length && p.raw.head? == some '\'' && p.raw.getLast? == some '\''

/-- The options that the words of a command give: the program is the first positional word in
single quotes. -/
def ofArguments (args : Shell.Arguments) : Awk :=
  let program := (args.positionals.find? isQuotedProgram).map Shell.Positional.value
  ⟨(args.value? 'F').getD default.separator, program.getD default.program⟩

end Awk

/-! ## Characters

`tr`: delete, squeeze or substitute the characters of a set.

The sets are lists of characters, without ranges or classes. Deleting comes before squeezing, and
squeezing before substituting.
-/

structure Tr where
  set1 : Text
  set2 : Text
  delete : Bool
  squeeze : Bool
  deriving DecidableEq, Repr

namespace Tr

def default : Tr := ⟨[], [], false, false⟩

def set (o : Tr) (key : Text) (value : OptionValue) : Except OptionFault Tr :=
  if key = "set1".toList then value.asText.map fun t => { o with set1 := t }
  else if key = "set2".toList then value.asText.map fun t => { o with set2 := t }
  else if key = ['d'] then value.asFlag.map fun b => { o with delete := b }
  else if key = ['s'] then value.asFlag.map fun b => { o with squeeze := b }
  else .error .unknownKey

def deleteAll (set line : Text) : Text := line.filter fun c => !set.contains c

/-- Leave out a member of the set that follows its like; `before` is the character in front. -/
def squeezeFrom (set : Text) (before : Option Char) : Text → Text
  | [] => []
  | c :: cs =>
    if before = some c ∧ c ∈ set then squeezeFrom set before cs
    else c :: squeezeFrom set (some c) cs

def squeezeRuns (set line : Text) : Text := squeezeFrom set none line

/-- What a character becomes: the character of the second set at the place of its first
occurrence in the first, or nothing when the second set is too short. -/
def substitute (set1 set2 : Text) (c : Char) : Option Char :=
  match set1.idxOf? c with
  | some k => set2[k]?
  | none => some c

def substituteAll (set1 set2 line : Text) : Text :=
  line.filterMap (substitute set1 set2)

def change (o : Tr) (line : Text) : Text :=
  if o.delete then deleteAll o.set1 line
  else if o.squeeze then squeezeRuns o.set1 line
  else substituteAll o.set1 o.set2 line

def apply (o : Tr) (lines : List Text) : List Text := lines.map o.change

/-- Whether the command writes the second set: never for deleting alone, for squeezing alone
when it is not empty, and always otherwise. -/
def writesSet2 (o : Tr) : Bool :=
  match o.delete, o.squeeze with
  | true, false => false
  | false, true => !o.set2.isEmpty
  | _, _ => true

def render (o : Tr) : Text :=
  Tool.tr.name ++ (if o.delete then " -d".toList else []) ++
    (if o.squeeze then " -s".toList else []) ++ ' ' :: Shell.quote o.set1 ++
    (if o.writesSet2 then ' ' :: Shell.quote o.set2 else [])

def switches : Text := ['d', 's']

/-- The options that the words of a command give: the first two positional words are the sets. -/
def ofArguments (args : Shell.Arguments) : Tr :=
  let words := args.positionals.map Shell.Positional.value
  ⟨(words[0]?).getD [], (words[1]?).getD [], args.isSet 'd', args.isSet 's'⟩

end Tr

end Pipework
