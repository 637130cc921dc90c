import Pipework.Json.Writer
import Pipework.Step.Fresh

/-!
Steps as JSON values: written with every option, and read with the faults told.
-/

set_option autoImplicit false
set_option relaxedAutoImplicit false

namespace Pipework

/-! ## Writing

Steps as JSON values, with every option written and the keys in ascending order.
-/

def OptionValue.toJson : OptionValue → Json
  | .flag b => .bool b
  | .text t => .string t

def Filter.optionMembers (f : Filter) : List (Text × Json) :=
  Json.sortMembers (f.fields.map fun field => (field.1, field.2.toJson))

def Filter.members (f : Filter) : List (Text × Json) :=
  [("options".toList, .object f.optionMembers), ("type".toList, .string f.tool.name)]

def Filter.toJson (f : Filter) : Json := .object f.members

def Step.toJson (s : Step) : Json :=
  .object (("id".toList, .string s.id.toText) :: s.filter.members)

end Pipework

/-! ## Texts in messages

A text in double quotes, for messages: every character that could not be seen is written as an
escape.
-/

namespace Pipework.Text

/-- Whether a character shows by itself: it is assigned, no control, no private code, and no
blank but the common one. -/
def isVisible (c : Char) : Bool :=
  let n := c.toNat
  if n < 0x7F then 0x20 ≤ n
  else
    let inTable (r : Unicode.Ranges) : Bool := r.contains n
    inTable Unicode.assigned &&
      !([Unicode.Table.control, Unicode.Table.format, Unicode.Table.privateUse,
        Unicode.Table.spaceSeparator, Unicode.Table.lineSeparator,
        Unicode.Table.paragraphSeparator].any inTable) &&
      !inTable Unicode.graphemeExtend

def hexDigits (n : Nat) : Text := Nat.toDigits 16 n

def visibleChar (c : Char) : Text :=
  if c = '\x22' then ['\\', '\x22']
  else if c = '\\' then ['\\', '\\']
  else if c = '\x00' then ['\\', '0']
  else if c = '\t' then ['\\', 't']
  else if c = '\n' then ['\\', 'n']
  else if c = '\r' then ['\\', 'r']
  else if isVisible c then [c]
  else ['\\', 'u', '\x7b'] ++ hexDigits c.toNat ++ ['\x7d']

def visible (t : Text) : Text := '\x22' :: (t.flatMap visibleChar ++ ['\x22'])

end Pipework.Text

/-! ## Reading

A record is an object, whose unknown keys are passed over and whose missing keys keep their
default, or an array of its fields in order. Faults are told in the order of the members, which
are sorted by key where a value is read as a whole.
-/

namespace Pipework

inductive DecodeFault
  | invalidType (found : Json) (expected : String)
  | invalidValue (found : Json) (expected : String)
  | invalidLength (length : Nat) (expected : String)
  | unknownTool (name : Text)
  | missingField (name : String)
  | repeatedField (name : String)
  /-- None of the shapes of a value with several shapes. -/
  | noShape (name : String)

namespace DecodeFault

def foundText : Json → Text
  | .null => "null".toList
  | .bool b => "boolean `".toList ++ (if b then "true".toList else "false".toList) ++ ['\x60']
  | .number (.whole i) => "integer `".toList ++ Json.intText i ++ ['\x60']
  | .number (.floating x) => "floating point `".toList ++ x.toText ++ ['\x60']
  | .string t => "string ".toList ++ Text.visible t
  | .array _ => "sequence".toList
  | .object _ => "map".toList

def toolNames : Text :=
  Text.join ", ".toList (Tool.all.map fun tool => '\x60' :: (tool.name ++ ['\x60']))

def message : DecodeFault → Text
  | .invalidType found expected =>
    "invalid type: ".toList ++ foundText found ++ ", expected ".toList ++ expected.toList
  | .invalidValue found expected =>
    "invalid value: ".toList ++ foundText found ++ ", expected ".toList ++ expected.toList
  | .invalidLength length expected =>
    "invalid length ".toList ++ Text.ofNat length ++ ", expected ".toList ++ expected.toList
  | .unknownTool name =>
    "unknown variant `".toList ++ name ++ "`, expected one of ".toList ++ toolNames
  | .missingField name => "missing field `".toList ++ name.toList ++ ['\x60']
  | .repeatedField name => "duplicate field `".toList ++ name.toList ++ ['\x60']
  | .noShape name => "data did not match any variant of untagged enum ".toList ++ name.toList

end DecodeFault

namespace Decode

abbrev Decoder (α : Type) := Json → Except DecodeFault α

def text : Decoder Text
  | .string t => .ok t
  | j => .error (.invalidType j "a string")

def flag : Decoder Bool
  | .bool b => .ok b
  | j => .error (.invalidType j "a boolean")

/-- A field of a record: its key, and how a value for it changes the record. -/
structure Field (ρ : Type) where
  key : String
  set : Json → ρ → Except DecodeFault ρ

def field {ρ α : Type} (key : String) (decoder : Decoder α) (put : ρ → α → ρ) : Field ρ :=
  ⟨key, fun j r => (decoder j).map (put r)⟩

def setMembers {ρ : Type} (fields : List (Field ρ)) :
    List (Text × Json) → ρ → Except DecodeFault ρ
  | [], r => .ok r
  | (key, value) :: rest, r =>
    match fields.find? (·.key.toList == key) with
    | some f => do setMembers fields rest (← f.set value r)
    | none => setMembers fields rest r

def setItems {ρ : Type} : List (Field ρ) → List Json → ρ → Except DecodeFault ρ
  | f :: fields, item :: items, r => do setItems fields items (← f.set item r)
  | _, _, r => .ok r

/-- A record whose missing fields are those of `start`. -/
def record {ρ : Type} (name : String) (fields : List (Field ρ)) (start : ρ) : Decoder ρ
  | .object members => setMembers fields members start
  | .array items => do
    let r ← setItems fields items start
    if fields.length < items.length then
      .error (.invalidLength items.length "fewer elements in array")
    else .ok r
  | j => .error (.invalidType j ("struct " ++ name))

def cut : Decoder Cut :=
  record "CutOptions"
    [field "d" text fun o t => { o with delimiter := t },
     field "f" text fun o t => { o with fields := t }]
    .default

/-- The direction of a match: a flag, or a text that may be the pattern itself. -/
def direction : Decoder OptionValue
  | .bool b => .ok (.flag b)
  | .string t => .ok (.text t)
  | _ => .error (.noShape "InvertField")

/-- The options of `grep`; the direction is applied when all fields are known. -/
def grep : Decoder Grep := fun j => do
  let (o, v) ← record "GrepFields"
    [field "pattern" text fun (r : Grep × OptionValue) t => ({ r.1 with pattern := t }, r.2),
     field "i" flag fun r b => ({ r.1 with ignoreCase := b }, r.2),
     field "v" direction fun r v => (r.1, v),
     field "F" flag fun r b => ({ r.1 with fixed := b }, r.2)]
    (.default, .flag false) j
  return o.setInverted v

def sort : Decoder LineSort :=
  record "SortOptions" [field "r" flag fun _ b => ⟨b⟩] .default

/-- A count as text, or as a number, which is kept as it is written. -/
def countText : Decoder Text
  | .string t => .ok t
  | .number n => .ok n.toText
  | _ => .error (.noShape "Count")

def count : Decoder LineCount :=
  record "CountOptions" [field "n" countText fun _ t => ⟨t⟩] .default

def tr : Decoder Tr :=
  record "TrOptions"
    [field "set1" text fun o t => { o with set1 := t },
     field "set2" text fun o t => { o with set2 := t },
     field "d" flag fun o b => { o with delete := b },
     field "s" flag fun o b => { o with squeeze := b }]
    .default

def wc : Decoder Wc :=
  record "WcOptions"
    [field "l" flag fun o b => { o with lines := b },
     field "w" flag fun o b => { o with words := b },
     field "c" flag fun o b => { o with chars := b }]
    .default

def awk : Decoder Awk :=
  record "AwkOptions"
    [field "F" text fun o t => { o with separator := t },
     field "program" text fun o t => { o with program := t }]
    .default

def options : Tool → Decoder Filter
  | .cut, j => (cut j).map .cut
  | .grep, j => (grep j).map .grep
  | .sort, j => (sort j).map .sort
  | .uniq, _ => .ok .uniq
  | .head, j => (count j).map .head
  | .tail, j => (count j).map .tail
  | .tr, j => (tr j).map .tr
  | .wc, j => (wc j).map .wc
  | .awk, j => (awk j).map .awk

/-- A tool with its options, which may be left out. -/
def filter (tool : Tool) : Decoder Filter
  | .null => .ok (.default tool)
  | j => options tool j

def stepId : Decoder StepId
  | .string t =>
    match StepId.ofText? t with
    | some id => .ok id
    | none => .error (.noShape "Wire")
  | .number n => .ok (.ofNumber n.toBinary64)
  | _ => .error (.noShape "Wire")

def toolName (t : Text) : Except DecodeFault Tool :=
  match Tool.ofName? t with
  | some tool => .ok tool
  | none => .error (.unknownTool t)

/-- A tool: its name, or an object with its name as the only key and nothing under it. Where a
request is read, an empty object counts as nothing. -/
def tool (emptyIsUnit : Bool) : Decoder Tool
  | .string t => toolName t
  | .object [(name, value)] => do
    let found ← toolName name
    match value, emptyIsUnit with
    | .null, _ => .ok found
    | .object [], true => .ok found
    | other, _ => .error (.invalidType other "unit")
  | .object members => .error (.invalidValue (.object members) "map with a single key")
  | j => .error (.invalidType j "string or map")

structure RawStep where
  id : Option StepId
  tool : Option Tool
  options : Json

def rawFields (emptyIsUnit : Bool) : List (Field RawStep) :=
  [field "id" stepId fun r id => { r with id := some id },
   field "type" (Decode.tool emptyIsUnit) fun r t => { r with tool := some t },
   field "options" (fun j => .ok j.canonical) fun r j => { r with options := j }]

def RawStep.finish (r : RawStep) (missing : DecodeFault) : Except DecodeFault Draft := do
  match r.tool with
  | none => throw missing
  | some tool => return ⟨r.id, ← filter tool r.options⟩

/-- A step: an object, or an array of id, type and options. -/
def draft (emptyIsUnit : Bool) : Decoder Draft := fun j => do
  let start : RawStep := ⟨none, none, .null⟩
  match j with
  | .array items =>
    let r ← setItems (rawFields emptyIsUnit) items start
    if r.tool.isNone then throw (.invalidLength 1 "struct RawStep with 3 elements")
    if 3 < items.length then throw (.invalidLength items.length "fewer elements in array")
    r.finish (.missingField "type")
  | j => (← record "RawStep" (rawFields emptyIsUnit) start j).finish (.missingField "type")

def draftList (emptyIsUnit : Bool) : Decoder (List Draft)
  | .array items => items.mapM (draft emptyIsUnit)
  | j => .error (.invalidType j "a sequence")

/-- A list of steps as a value with sorted keys. -/
def drafts : Decoder (List Draft) := draftList false

def optionValue : Decoder OptionValue
  | .bool b => .ok (.flag b)
  | .string t => .ok (.text t)
  | _ => .error (.noShape "OptionValue")

end Decode

end Pipework
