import Pipework.Toml.Basic

/-!
Reading TOML documents.
-/

set_option autoImplicit false
set_option relaxedAutoImplicit false

namespace Pipework.Toml

/-! ## Strings

A basic string has escapes, a literal string has none; in three quotes either may run over
several lines. The line break after three opening quotes does not count, and up to two quotes
may stand in front of three closing ones.
-/

abbrev Reader (α : Type) := Text → Option (α × Text)

def isGap (c : Char) : Bool := c = ' ' || c = '\t'

/-- What may stand in a string or a comment as it is: no control character but the tab. -/
def isPlain (c : Char) : Bool := c = '\t' || (0x20 ≤ c.toNat && c.toNat != 0x7F)

def grow (c : Char) (r : Text × Text) : Text × Text := (c :: r.1, r.2)

def scalar (width : Nat) : Reader Char := fun t =>
  if (t.take width).length < width then none
  else (Text.readHex 0 (t.take width)).bind fun n =>
    if n.isValidChar then some (Char.ofNat n, t.drop width) else none

def escape : Reader Char
  | [] => none
  | c :: rest =>
    if c = 'u' then scalar 4 rest
    else if c = 'U' then scalar 8 rest
    else if c = 'b' then some ('\x08', rest)
    else if c = 't' then some ('\t', rest)
    else if c = 'n' then some ('\n', rest)
    else if c = 'f' then some ('\x0c', rest)
    else if c = 'r' then some ('\r', rest)
    else if c = '\x22' ∨ c = '\\' then some (c, rest)
    else none

/-- The rest of a basic string of one line; each step consumes a character. -/
def basicTail : Nat → Reader Text
  | 0, _ => none
  | _ + 1, [] => none
  | fuel + 1, c :: rest =>
    if c = '\x22' then some ([], rest)
    else if c = '\\' then
      (escape rest).bind fun (d, rest) => (basicTail fuel rest).map (grow d)
    else if isPlain c then (basicTail fuel rest).map (grow c)
    else none

def literalTail : Reader Text
  | [] => none
  | c :: rest =>
    if c = '\'' then some ([], rest)
    else if isPlain c then (literalTail rest).map (grow c)
    else none

/-- Three closing quotes, and up to two quotes in front of them that belong to the text. -/
def closing (quote : Char) (t : Text) : Option (Text × Text) :=
  let run := (t.takeWhile (· == quote)).length
  if run < 3 then none
  else some (t.take (min (run - 3) 2), t.drop (min (run - 3) 2 + 3))

def lineBreak? : Text → Option Text
  | '\n' :: rest => some rest
  | '\r' :: '\n' :: rest => some rest
  | _ => none

def skipLines : Text → Text
  | '\r' :: '\n' :: rest => skipLines rest
  | c :: rest => if c = '\n' ∨ isGap c then skipLines rest else c :: rest
  | [] => []

/-- Where the text goes on when a backslash ends the line. -/
def continued? (t : Text) : Option Text := (lineBreak? (t.dropWhile isGap)).map skipLines

def multiTail (quote : Char) (escapes : Bool) : Nat → Reader Text
  | 0, _ => none
  | fuel + 1, t =>
    (closing quote t).orElse fun _ =>
      match t with
      | [] => none
      | c :: rest =>
        if c = '\\' ∧ escapes then
          match continued? rest with
          | some rest => multiTail quote escapes fuel rest
          | none =>
            (escape rest).bind fun (d, rest) =>
              (multiTail quote escapes fuel rest).map (grow d)
        else if isPlain c then (multiTail quote escapes fuel rest).map (grow c)
        else (lineBreak? (c :: rest)).bind fun rest =>
          (multiTail quote escapes fuel rest).map (grow '\n')

def multi (quote : Char) (escapes : Bool) : Reader Text := fun t =>
  multiTail quote escapes (t.length + 1) ((lineBreak? t).getD t)

def quoted : Reader Text
  | '\x22' :: '\x22' :: '\x22' :: rest => multi '\x22' true rest
  | '\'' :: '\'' :: '\'' :: rest => multi '\'' false rest
  | '\x22' :: rest => basicTail (rest.length + 1) rest
  | '\'' :: rest => literalTail rest
  | _ => none

/-! ## Numbers and times

Single underscores may stand between digits. An integer fits 64 bits with a sign. A date may be
followed by a time of day and an offset.
-/

/-- Further digits, each perhaps behind an underscore, which is left out. -/
def digitsTail (isDigit : Char → Bool) : Reader Text
  | [] => some ([], [])
  | '_' :: c :: rest =>
    if isDigit c then (digitsTail isDigit rest).map (grow c) else none
  | c :: rest =>
    if isDigit c then (digitsTail isDigit rest).map (grow c) else some ([], c :: rest)

def digits (isDigit : Char → Bool) : Reader Text
  | [] => none
  | c :: rest => if isDigit c then (digitsTail isDigit rest).map (grow c) else none

def valueIn (base : Nat) (t : Text) : Nat :=
  t.foldl (fun n c => base * n + (Text.hexValue? c).getD 0) 0

def isDigitIn (base : Nat) (c : Char) : Bool := (Text.hexValue? c).any (· < base)

def integer? (i : Int) : Option Value :=
  if -(Nat.pow 2 63 : Int) ≤ i ∧ i < Nat.pow 2 63 then some (.integer i) else none

def based (base : Nat) : Reader Value := fun t => do
  let (ds, rest) ← digits (isDigitIn base) t
  return (← integer? (valueIn base ds), rest)

def sign : Text → Bool × Text
  | '-' :: rest => (true, rest)
  | '+' :: rest => (false, rest)
  | t => (false, t)

/-- The digits in front of the point: one zero, or digits of which the first is not zero. -/
def leadDigits : Reader Text
  | '0' :: rest => some (['0'], rest)
  | t => digits Char.isDigit t

def fraction : Reader (Option Text)
  | '.' :: rest => (digits Char.isDigit rest).map fun (ds, rest) => (some ds, rest)
  | t => some (none, t)

def exponent : Reader (Option Int)
  | [] => some (none, [])
  | c :: rest =>
    if c = 'e' ∨ c = 'E' then
      let (negative, rest) := sign rest
      (digits Char.isDigit rest).map fun (ds, rest) =>
        (some (if negative then -(valueIn 10 ds : Int) else valueIn 10 ds), rest)
    else some (none, c :: rest)

/-- The floating number nearest to a decimal. Beyond the largest number a negative one is
infinite and a positive one is refused. -/
def float? (negative : Bool) (ds : Nat) (e : Int) : Option Value :=
  match Number.Binary64.ofDecimal negative ds e with
  | some x => some (.floating (some x))
  | none => if negative then some (.floating none) else none

def decimal : Reader Value := fun t => do
  let (negative, rest) := sign t
  let (lead, rest) ← leadDigits rest
  let (fraction, rest) ← fraction rest
  let (exponent, rest) ← exponent rest
  match fraction, exponent with
  | none, none =>
    let n : Int := valueIn 10 lead
    return (← integer? (if negative then -n else n), rest)
  | _, _ =>
    let behind := fraction.getD []
    return (← float? negative (valueIn 10 (lead ++ behind)) (exponent.getD 0 - behind.length), rest)

def special? (t : Text) : Option Text :=
  match (sign t).2 with
  | 'i' :: 'n' :: 'f' :: rest => some rest
  | 'n' :: 'a' :: 'n' :: rest => some rest
  | _ => none

def digitField (width low high : Nat) : Reader Nat := fun t =>
  if (t.take width).length < width then none
  else (Text.readNat? (t.take width)).bind fun n =>
    if low ≤ n ∧ n ≤ high then some (n, t.drop width) else none

def skip (c : Char) : Text → Option Text
  | [] => none
  | d :: rest => if d = c then some rest else none

def daysIn (year month : Nat) : Nat :=
  if month = 2 then if year % 4 = 0 ∧ (year % 100 ≠ 0 ∨ year % 400 = 0) then 29 else 28
  else if month = 4 ∨ month = 6 ∨ month = 9 ∨ month = 11 then 30
  else 31

def date? (t : Text) : Option Text := do
  let (year, rest) ← digitField 4 0 9999 t
  let (month, rest) ← digitField 2 1 12 (← skip '-' rest)
  let (_, rest) ← digitField 2 1 (daysIn year month) (← skip '-' rest)
  return rest

def skipParts (t : Text) : Text :=
  match t with
  | '.' :: c :: rest => if c.isDigit then rest.dropWhile Char.isDigit else t
  | _ => t

def time? (t : Text) : Option Text := do
  let (_, rest) ← digitField 2 0 23 t
  let (_, rest) ← digitField 2 0 59 (← skip ':' rest)
  let (_, rest) ← digitField 2 0 60 (← skip ':' rest)
  return skipParts rest

def offset? : Text → Option Text
  | [] => none
  | c :: rest =>
    if c = 'Z' ∨ c = 'z' then some rest
    else if c = '+' ∨ c = '-' then do
      let (_, rest) ← digitField 2 0 23 rest
      let (_, rest) ← digitField 2 0 59 (← skip ':' rest)
      return rest
    else none

def skipTime (t : Text) : Text :=
  match t with
  | [] => []
  | c :: rest =>
    if c = 'T' ∨ c = 't' ∨ c = ' ' then
      match time? rest with
      | some rest => (offset? rest).getD rest
      | none => t
    else t

def moment? (t : Text) : Option Text :=
  match date? t with
  | some rest => some (skipTime rest)
  | none => time? t

def number : Reader Value := fun t =>
  match moment? t with
  | some rest => some (.moment, rest)
  | none =>
    match special? t with
    | some rest => some (.floating none, rest)
    | none =>
      match t with
      | '0' :: 'x' :: rest => based 16 rest
      | '0' :: 'o' :: rest => based 8 rest
      | '0' :: 'b' :: rest => based 2 rest
      | t => decimal t

/-! ## Documents

A document is a sequence of lines: headers of tables, and entries with a key and a value. The
entries under a header fill its table; those in front of the first header fill the document's
own.
-/

/-- How deep arrays and inline tables may nest, and how many parts a key may have, plus one. -/
def depthLimit : Nat := 80

def skipFree (inComment : Bool) : Text → Text
  | [] => []
  | '\r' :: '\n' :: rest => skipFree false rest
  | c :: rest =>
    if c = '\n' then skipFree false rest
    else if inComment then if isPlain c then skipFree true rest else c :: rest
    else if isGap c then skipFree false rest
    else if c = '#' then skipFree true rest
    else c :: rest

def skipGap (t : Text) : Text := t.dropWhile isGap

/-- Step over what may follow on a line and over the end of the line or of the text. -/
def lineEnd? (t : Text) : Option Text :=
  let rest := match skipGap t with
    | '#' :: comment => comment.dropWhile isPlain
    | other => other
  match rest with
  | [] => some []
  | other => lineBreak? other

def isBare (c : Char) : Bool := c.isAlphanum || c = '-' || c = '_'

def keyPart : Reader Text := fun t =>
  match t with
  | '\x22' :: rest => basicTail (rest.length + 1) rest
  | '\'' :: rest => literalTail rest
  | t => if (t.takeWhile isBare).isEmpty then none else some (t.span isBare)

/-- A key: parts with points between them, blanks around every part. -/
def keyFrom : Nat → Reader (List Text)
  | 0, _ => none
  | fuel + 1, t => do
    let (part, rest) ← keyPart (skipGap t)
    match skipGap rest with
    | '.' :: rest =>
      let (parts, rest) ← keyFrom fuel rest
      return (part :: parts, rest)
    | rest => return ([part], rest)

def key : Reader (List Text) := keyFrom (depthLimit - 1)

mutual

/-- A value; `fuel` bounds the steps and `depth` the nesting. -/
def valueFrom : Nat → Nat → Reader Value
  | 0, _, _ => none
  | fuel + 1, depth, t =>
    match t with
    | [] => none
    | c :: rest =>
      if c = '\x22' ∨ c = '\'' then (quoted (c :: rest)).map fun (s, rest) => (.string s, rest)
      else if c = '[' then
        if depth ≤ 1 then none
        else (itemsFrom fuel (depth - 1) (skipFree false rest)).map fun (items, rest) =>
          (.array items, rest)
      else if c = '\x7b' then
        if depth ≤ 1 then none
        else do
          let (entries, rest) ← match skipGap rest with
            | '\x7d' :: rest => some ([], rest)
            | rest => entriesFrom fuel (depth - 1) rest
          return (.table .inline (← Table.fill entries []), rest)
      else if "true".toList.isPrefixOf (c :: rest) then some (.boolean true, rest.drop 3)
      else if "false".toList.isPrefixOf (c :: rest) then some (.boolean false, rest.drop 4)
      else number (c :: rest)

/-- The items of an array up to its closing bracket; a comma may follow the last one. -/
def itemsFrom : Nat → Nat → Reader (List Value)
  | 0, _, _ => none
  | fuel + 1, depth, t =>
    match t with
    | ']' :: rest => some ([], rest)
    | t => do
      let (item, rest) ← valueFrom fuel depth t
      match skipFree false rest with
      | ',' :: rest =>
        let (items, rest) ← itemsFrom fuel depth (skipFree false rest)
        return (item :: items, rest)
      | ']' :: rest => return ([item], rest)
      | _ => none

/-- The entries of an inline table up to its closing brace, at least one. -/
def entriesFrom : Nat → Nat → Reader (List (List Text × Value))
  | 0, _, _ => none
  | fuel + 1, depth, t => do
    let (path, rest) ← key t
    let (value, rest) ← valueFrom fuel depth (skipGap (← skip '=' rest))
    match skipGap rest with
    | ',' :: rest =>
      let (entries, rest) ← entriesFrom fuel depth rest
      return ((path, value) :: entries, rest)
    | '\x7d' :: rest => return ([(path, value)], rest)
    | _ => none

end

def value : Reader Value := fun t => valueFrom (2 * t.length + 2) depthLimit t

inductive Line
  /-- The header of a table, or with `repeated` of one more table of an array. -/
  | header (repeated : Bool) (path : List Text)
  | entry (path : List Text) (value : Value)

def headerRest (repeated : Bool) : Reader Line := fun t => do
  let (path, rest) ← key t
  let rest ← skip ']' rest
  let rest ← if repeated then skip ']' rest else some rest
  return (.header repeated path, rest)

def entryLine : Reader Line := fun t => do
  let (path, rest) ← key t
  let (v, rest) ← value (skipGap (← skip '=' rest))
  return (.entry path v, rest)

def line : Reader Line
  | '[' :: '[' :: rest => headerRest true rest
  | '[' :: rest => headerRest false rest
  | t => entryLine t

/-- The lines of a text; empty ones and comments are left out. -/
def linesFrom : Nat → Text → Option (List Line)
  | 0, _ => none
  | fuel + 1, t =>
    if t.isEmpty then some []
    else
      match lineEnd? t with
      | some rest => linesFrom fuel rest
      | none => do
        let (l, rest) ← line (skipGap t)
        let ls ← linesFrom fuel (← lineEnd? rest)
        return l :: ls

structure Section where
  repeated : Bool
  path : List Text
  entries : List (List Text × Value)

/-- The entries in front of the first header, and the sections. -/
def sections : List Line → List (List Text × Value) × List Section
  | [] => ([], [])
  | .entry path v :: rest => ((path, v) :: (sections rest).1, (sections rest).2)
  | .header repeated path :: rest => ([], ⟨repeated, path, (sections rest).1⟩ :: (sections rest).2)

def Table.ofLines (ls : List Line) : Option Table := do
  let root ← Table.fill (sections ls).1 []
  (sections ls).2.foldlM (fun t s => t.openSection s.repeated s.entries s.path) root

/-- The table of a whole text; a byte order mark may stand in front. -/
def Table.ofText? (t : Text) : Option Table :=
  let body := if t.head? = some '\uFEFF' then t.drop 1 else t
  (linesFrom (body.length + 1) body).bind Table.ofLines

end Pipework.Toml
