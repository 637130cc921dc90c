import Pipework.Json.Writer

/-!
The values of TOML documents, as JSON and as text.
-/

set_option autoImplicit false
set_option relaxedAutoImplicit false

namespace Pipework.Toml

/-! ## Values and tables

A table remembers how it came about. A dotted key may add to tables that dotted keys made, a
header may open a table that so far only stood on the way to other headers, and a header in
double brackets adds a table to an array of tables.
-/

inductive Origin
  /-- Written in braces as a value; nothing can be added. -/
  | inline
  /-- Made by a dotted key. -/
  | dotted
  /-- Made on the way to the table of a header. -/
  | path
  /-- Opened by its own header. -/
  | header
  deriving DecidableEq, Repr

inductive Value
  | string (t : Text)
  | integer (i : Int)
  /-- A floating number; infinite and undefined ones are not told apart. -/
  | floating (x : Option Number.Binary64)
  | boolean (b : Bool)
  /-- A date, a time of day, or both. -/
  | moment
  | array (items : List Value)
  | table (origin : Origin) (entries : List (Text × Value))
  /-- An array of tables that headers opened; the last one is the one that grows. -/
  | tables (earlier : List (List (Text × Value))) (last : List (Text × Value))

abbrev Table := List (Text × Value)

namespace Table

/-- Change the value of a key, or add the key. -/
def alter (key : Text) (f : Option Value → Option Value) : Table → Option Table
  | [] => (f none).map fun v => [(key, v)]
  | (k, v) :: rest =>
    if k = key then (f (some v)).map fun v => (k, v) :: rest
    else (alter key f rest).map fun rest => (k, v) :: rest

def fresh (value : Value) : Option Value → Option Value
  | none => some value
  | some _ => none

/-- Put a value under a dotted key. A key may end in the table where it starts and in tables
that dotted keys made; `mayEnd` says whether it may end in this one. -/
def put (value : Value) : List Text → Bool → Table → Option Table
  | [], _, _ => none
  | [key], mayEnd, table => if mayEnd then table.alter key (fresh value) else none
  | key :: next :: path, _, table =>
    table.alter key fun
      | none => (put value (next :: path) true []).map (.table .dotted)
      | some (.table .dotted inner) => (put value (next :: path) true inner).map (.table .dotted)
      | some (.table .path inner) => (put value (next :: path) false inner).map (.table .path)
      | some (.tables earlier last) =>
        (put value (next :: path) false last).map (.tables earlier)
      | some _ => none

def fill (entries : List (List Text × Value)) (table : Table) : Option Table :=
  entries.foldlM (fun t entry => put entry.2 entry.1 true t) table

/-- The value that a header opens, filled with the entries below it: a table, or one more table
of an array. -/
def start (repeated : Bool) (entries : List (List Text × Value)) : Option Value → Option Value
  | none => (fill entries []).map fun t => if repeated then .tables [] t else .table .header t
  | some (.table .path inner) =>
    if repeated then none else (fill entries inner).map (.table .header)
  | some (.tables earlier last) =>
    if repeated then (fill entries []).map (.tables (earlier ++ [last])) else none
  | some _ => none

def openSection (repeated : Bool) (entries : List (List Text × Value)) :
    List Text → Table → Option Table
  | [], _ => none
  | [key], table => table.alter key (start repeated entries)
  | key :: next :: path, table =>
    table.alter key fun
      | none => (openSection repeated entries (next :: path) []).map (.table .path)
      | some (.table .inline _) => none
      | some (.table origin inner) =>
        (openSection repeated entries (next :: path) inner).map (.table origin)
      | some (.tables earlier last) =>
        (openSection repeated entries (next :: path) last).map (.tables earlier)
      | some _ => none

end Table

/-! ## JSON

A date or time counts as an object none of whose keys is known, and a floating number that is
not finite as `null`, which no reader of a number, a text or a flag takes.
-/

mutual

def Value.toJson : Value → Json
  | .string t => .string t
  | .integer i => .number (.whole i)
  | .floating (some x) => .number (.floating x)
  | .floating none => .null
  | .boolean b => .bool b
  | .moment => .object []
  | .array items => .array (itemsJson items)
  | .table _ entries => .object (entriesJson entries)
  | .tables earlier last => .array (tablesJson earlier ++ [.object (entriesJson last)])

def itemsJson : List Value → List Json
  | [] => []
  | v :: rest => v.toJson :: itemsJson rest

def entriesJson : List (Text × Value) → List (Text × Json)
  | [] => []
  | (k, v) :: rest => (k, v.toJson) :: entriesJson rest

def tablesJson : List (List (Text × Value)) → List Json
  | [] => []
  | t :: rest => .object (entriesJson t) :: tablesJson rest

end

/-! ## Writing

A string is written without escapes where one of the four kinds allows it: as a basic string of
one line, a literal one, a basic one of several lines, a literal one of several lines, the first
of these that fits. Otherwise it is a basic string with escapes.
-/

/-- A control character other than the tab and the line feed. -/
def isControl (c : Char) : Bool :=
  (c.toNat < 0x20 && c != '\t' && c != '\n') || c.toNat == 0x7F

def longestRun (c : Char) : Text → Nat
  | [] => 0
  | d :: rest => max ((d :: rest).takeWhile (· == c)).length (longestRun c rest)

inductive Style
  | basic
  | literal
  | multiBasic
  | multiLiteral
  deriving DecidableEq, Repr

def Style.of (t : Text) : Style :=
  let lined := t.contains '\n'
  if !t.any isControl && !t.contains '\\' && !t.contains '\x22' && !lined then .basic
  else if !t.any isControl && !t.contains '\'' && !lined then .literal
  else if !t.any isControl && !t.contains '\\' && longestRun '\x22' t ≤ 2 then .multiBasic
  else if !t.any isControl && longestRun '\'' t ≤ 2 then .multiLiteral
  else if lined then .multiBasic
  else .basic

def escapeChar (multiline : Bool) (c : Char) : Text :=
  if c = '\x08' then ['\\', 'b']
  else if c = '\t' then ['\\', 't']
  else if c = '\n' then if multiline then ['\n'] else ['\\', 'n']
  else if c = '\x0c' then ['\\', 'f']
  else if c = '\r' then ['\\', 'r']
  else if c = '\\' then ['\\', '\\']
  else if isControl c then ['\\', 'u'] ++ (Text.hexPadded 4 c.toNat).map Char.toUpper
  else [c]

/-- How many quotes in a row stand without escapes. -/
def freeQuotes (multiline : Bool) : Nat := if multiline then 2 else 0

/-- The inside of a basic string; `run` quotes without escapes stand right in front. -/
def escapeFrom (multiline : Bool) : Nat → Text → Text
  | _, [] => []
  | run, c :: rest =>
    if c = '\x22' then
      if run < freeQuotes multiline then c :: escapeFrom multiline (run + 1) rest
      else '\\' :: c :: escapeFrom multiline 0 rest
    else escapeChar multiline c ++ escapeFrom multiline 0 rest

/-- Three quotes, with a line break after them if the string has several lines. -/
def openMulti (quote : Char) (t : Text) : Text :=
  List.replicate 3 quote ++ if t.contains '\n' then ['\n'] else []

def writeString (t : Text) : Text :=
  match Style.of t with
  | .basic => '\x22' :: (escapeFrom false 0 t ++ ['\x22'])
  | .literal => '\'' :: (t ++ ['\''])
  | .multiBasic => openMulti '\x22' t ++ escapeFrom true 0 t ++ List.replicate 3 '\x22'
  | .multiLiteral => openMulti '\'' t ++ t ++ List.replicate 3 '\''

def writeBoolean (b : Bool) : Text := if b then "true".toList else "false".toList

/-- The line of an entry, whose key needs no quotes. -/
def writeEntry (key value : Text) : Text := key ++ " = ".toList ++ value ++ ['\n']

def writeHeader (path : List Text) : Text := '[' :: (Text.join ['.'] path ++ [']', '\n'])

end Pipework.Toml
