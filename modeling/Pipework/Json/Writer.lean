import Pipework.Number

/-!
JSON values and the texts they are written as.
-/

set_option autoImplicit false
set_option relaxedAutoImplicit false

namespace Pipework

/-! ## Values

A number keeps whether it was written as a whole number that fits 64 bits. `canonical` gives
every object its keys in ascending order, the last of equal keys winning.
-/

inductive Json.Number
  /-- A whole number from `-2 ^ 63` up to `2 ^ 64 - 1`. -/
  | whole (i : Int)
  /-- Any other number, which is finite. -/
  | floating (x : Number.Binary64)
  deriving DecidableEq, Repr

/-- A JSON value; an object keeps its members in order, repeated keys included. -/
inductive Json
  | null
  | bool (b : Bool)
  | number (n : Json.Number)
  | string (t : Text)
  | array (items : List Json)
  | object (members : List (Text × Json))

namespace Json

def intText (i : Int) : Text :=
  if i < 0 then '-' :: Text.ofNat i.natAbs else Text.ofNat i.natAbs

def Number.toText : Json.Number → Text
  | .whole i => intText i
  | .floating x => x.toText

def Number.toBinary64 : Json.Number → Number.Binary64
  | .whole i => .ofInt i
  | .floating x => x

/-- Put a member into a list with ascending keys, in place of an equal key. -/
def insertMember (key : Text) (value : Json) : List (Text × Json) → List (Text × Json)
  | [] => [(key, value)]
  | (k, v) :: rest =>
    if key = k then (key, value) :: rest
    else if Text.le key k then (key, value) :: (k, v) :: rest
    else (k, v) :: insertMember key value rest

/-- The members with ascending keys; of equal keys the last one stays. -/
def sortMembers (members : List (Text × Json)) : List (Text × Json) :=
  members.foldl (fun sorted m => insertMember m.1 m.2 sorted) []

mutual

def canonical : Json → Json
  | .array items => .array (canonicalItems items)
  | .object members => .object (sortMembers (canonicalMembers members))
  | value => value

def canonicalItems : List Json → List Json
  | [] => []
  | item :: items => canonical item :: canonicalItems items

def canonicalMembers : List (Text × Json) → List (Text × Json)
  | [] => []
  | (key, value) :: members => (key, canonical value) :: canonicalMembers members

end

def lookup (key : Text) : List (Text × Json) → Option Json
  | [] => none
  | (k, v) :: rest => if k = key then some v else lookup key rest

def member? (key : Text) : Json → Option Json
  | .object members => lookup key members
  | _ => none

/-! ## Writing

Writing JSON without blanks: strings escape the quote, the backslash and the control
characters below the blank, and nothing else.
-/

def escapeChar (c : Char) : Text :=
  if c = '\x22' then ['\\', '\x22']
  else if c = '\\' then ['\\', '\\']
  else if c = '\x08' then ['\\', 'b']
  else if c = '\x0c' then ['\\', 'f']
  else if c = '\n' then ['\\', 'n']
  else if c = '\r' then ['\\', 'r']
  else if c = '\t' then ['\\', 't']
  else if c.toNat < 0x20 then ['\\', 'u'] ++ Text.hexPadded 4 c.toNat
  else [c]

def quoted (t : Text) : Text := '\x22' :: (t.flatMap escapeChar ++ ['\x22'])

mutual

def toText : Json → Text
  | .null => "null".toList
  | .bool b => if b then "true".toList else "false".toList
  | .number n => n.toText
  | .string t => quoted t
  | .array items => '[' :: (itemsText items ++ [']'])
  | .object members => '\x7b' :: (membersText members ++ ['\x7d'])

def itemsText : List Json → Text
  | [] => []
  | [item] => toText item
  | item :: next :: items => toText item ++ ',' :: itemsText (next :: items)

def membersText : List (Text × Json) → Text
  | [] => []
  | [(key, value)] => quoted key ++ ':' :: toText value
  | (key, value) :: next :: members =>
    quoted key ++ ':' :: toText value ++ ',' :: membersText (next :: members)

end

end Json

end Pipework
