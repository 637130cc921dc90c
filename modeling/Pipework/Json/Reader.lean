import Pipework.Json.Writer

/-!
Reading JSON texts.

A reader takes the rest of the text and gives a value with what is left. A text is refused as
`malformed` when no continuation could make it JSON, as `unfinished` when it ends inside a
value, and as `mismatched` by readers of more special things when it is JSON of another shape.

Values that are only passed over may nest without limit and may hold numbers out of range and
lone surrogates; a value that is kept may not.
-/

set_option autoImplicit false
set_option relaxedAutoImplicit false

namespace Pipework.Json

inductive Fault
  | malformed
  | unfinished
  | mismatched
  deriving DecidableEq, Repr

abbrev Reader (α : Type) := Text → Except Fault (α × Text)

/-- Whether a value is kept or only passed over. -/
inductive Use
  | keep
  | pass
  deriving DecidableEq

def isSpace (c : Char) : Bool := c = ' ' || c = '\n' || c = '\t' || c = '\r'

def skipSpace (t : Text) : Text := t.dropWhile isSpace

/-- How deep kept arrays and objects may nest, plus one. -/
def depthLimit : Nat := 128

/-- Four hexadecimal digits; fewer than four bytes of text are unfinished. -/
def hexUnit : Reader Nat := fun t =>
  if (t.take 4).foldr (fun c n => c.utf8Size + n) 0 < 4 then .error .unfinished
  else match t with
    | a :: b :: c :: d :: rest =>
      match Text.readHex 0 [a, b, c, d] with
      | some n => .ok (n, rest)
      | none => .error .malformed
    | _ => .error .malformed

/-- The low half of a surrogate pair whose high half was `high`. -/
def lowSurrogate (high : Nat) : Reader Char
  | [] => .error .unfinished
  | ['\\'] => .error .unfinished
  | '\\' :: 'u' :: rest => do
    let (low, rest) ← hexUnit rest
    if 0xDC00 ≤ low ∧ low ≤ 0xDFFF then
      .ok (Char.ofNat (0x10000 + (high - 0xD800) * 0x400 + (low - 0xDC00)), rest)
    else .error .malformed
  | _ => .error .malformed

def unicodeEscape (use : Use) : Reader Char := fun t => do
  let (n, rest) ← hexUnit t
  match use with
  | .pass => .ok (Char.ofNat n, rest)
  | .keep =>
    if 0xDC00 ≤ n ∧ n ≤ 0xDFFF then .error .malformed
    else if 0xD800 ≤ n ∧ n ≤ 0xDBFF then lowSurrogate n rest
    else .ok (Char.ofNat n, rest)

def escape (use : Use) : Reader Char
  | [] => .error .unfinished
  | 'u' :: rest => unicodeEscape use rest
  | c :: rest =>
    if c = '\x22' ∨ c = '\\' ∨ c = '/' then .ok (c, rest)
    else if c = 'b' then .ok ('\x08', rest)
    else if c = 'f' then .ok ('\x0c', rest)
    else if c = 'n' then .ok ('\n', rest)
    else if c = 'r' then .ok ('\r', rest)
    else if c = 't' then .ok ('\t', rest)
    else .error .malformed

def stringTail (use : Use) : Nat → Reader Text
  | 0, _ => .error .unfinished
  | _ + 1, [] => .error .unfinished
  | fuel + 1, c :: rest =>
    if c = '\x22' then .ok ([], rest)
    else if c = '\\' then do
      let (d, rest) ← escape use rest
      let (tail, rest) ← stringTail use fuel rest
      .ok (d :: tail, rest)
    else if c.toNat < 0x20 then .error .malformed
    else do
      let (tail, rest) ← stringTail use fuel rest
      .ok (c :: tail, rest)

/-- The rest of a string; each step consumes a character. -/
def stringRest (use : Use) : Reader Text := fun t => stringTail use (t.length + 1) t

def spanDigits (t : Text) : Text × Text := t.span Char.isDigit

/-- Append digits to a number while it fits 64 bits; the count of digits left out. -/
def gather (n : Nat) : Text → Nat × Nat
  | [] => (n, 0)
  | c :: cs =>
    let m := 10 * n + (c.toNat - 48)
    if m < Text.wordBound then gather m cs else (n, cs.length + 1)

/-- Scale by `10 ^ 308` as long as the power of ten itself is out of range. -/
def scaleDecimal : Nat → Number.Magnitude → Int → Option Number.Magnitude
  | 0, x, _ => some x
  | fuel + 1, x, e =>
    if e.natAbs ≤ 308 then do
      let power ← Number.Magnitude.nearest (Nat.pow 10 e.natAbs) 1
      if 0 ≤ e then x.mul power else x.div power
    else if x.significand = 0 then some x
    else if 0 ≤ e then none
    else do
      let power ← Number.Magnitude.nearest (Nat.pow 10 308) 1
      let y ← x.div power
      scaleDecimal fuel y (e + 308)

/-- The number of at most 64 bits of digits and a power of ten: the digits are rounded, then
multiplied or divided by the rounded power. -/
def floatOf (negative : Bool) (digits : Nat) (e : Int) : Option Number.Binary64 := do
  let x ← Number.Magnitude.nearest digits 1
  let y ← scaleDecimal 4 x e
  some (.ofMagnitude negative y)

def wholeOf (negative : Bool) (n : Nat) : Json.Number :=
  if negative then
    if 1 ≤ n ∧ n ≤ Nat.pow 2 63 then .whole (-n)
    else .floating (.ofMagnitude true ((Number.Magnitude.nearest n 1).getD .zero))
  else .whole n

/-- What the end of the text inside a number counts as. -/
def endFault : Use → Fault
  | .keep => .unfinished
  | .pass => .malformed

def someDigits (use : Use) : Reader Text := fun t =>
  match spanDigits t with
  | ([], []) => .error (endFault use)
  | ([], _) => .error .malformed
  | (digits, rest) => .ok (digits, rest)

/-- The digits in front of the point: one zero, or a numeral that starts with no zero. -/
def leadDigits (use : Use) : Reader Text
  | '0' :: c :: rest => if c.isDigit then .error .malformed else .ok (['0'], c :: rest)
  | t => someDigits use t

def exponentTail (use : Use) : Reader Int
  | '-' :: rest => do
    let (digits, rest) ← someDigits use rest
    .ok (-((Text.readDigits 0 digits).getD 0 : Int), rest)
  | t => do
    let (digits, rest) ← someDigits use (if t.head? = some '+' then t.drop 1 else t)
    .ok (((Text.readDigits 0 digits).getD 0 : Int), rest)

def fractionPart (use : Use) : Reader (Option Text)
  | '.' :: rest => do
    let (digits, rest) ← someDigits use rest
    .ok (some digits, rest)
  | t => .ok (none, t)

def exponentPart (use : Use) : Reader (Option Int)
  | c :: rest =>
    if c = 'e' ∨ c = 'E' then do
      let (e, rest) ← exponentTail use rest
      .ok (some e, rest)
    else .ok (none, c :: rest)
  | [] => .ok (none, [])

def numberTail (use : Use) (negative : Bool) : Reader Json.Number := fun t => do
  let (lead, rest) ← leadDigits use t
  let (fraction, rest) ← fractionPart use rest
  let (exponent, rest) ← exponentPart use rest
  let (n, dropped) := gather 0 lead
  match fraction, exponent, dropped with
  | none, none, 0 => .ok (wholeOf negative n, rest)
  | _, _, _ =>
    let digits := fraction.getD []
    let (m, left) := gather n digits
    let used := digits.length - left
    match floatOf negative m ((dropped : Int) - used + exponent.getD 0) with
    | some x => .ok (.floating x, rest)
    | none =>
      match use with
      | .keep => .error .malformed
      | .pass => .ok (.whole 0, rest)

def literalTail (name : Text) (value : Json) : Reader Json := fun t =>
  if name.isPrefixOf t then .ok (value, t.drop name.length)
  else if t.isPrefixOf name then .error .unfinished
  else .error .malformed

def colon : Reader Unit := fun t =>
  match skipSpace t with
  | [] => .error .unfinished
  | ':' :: rest => .ok ((), rest)
  | _ => .error .malformed

/-- Where the next item of an array starts, or the text after the closing bracket. -/
def nextItem (first : Bool) (t : Text) : Except Fault (Text ⊕ Text) :=
  match skipSpace t with
  | [] => .error .unfinished
  | ']' :: rest => .ok (.inr rest)
  | c :: rest =>
    if first then .ok (.inl (c :: rest))
    else if c = ',' then
      match skipSpace rest with
      | [] => .error .unfinished
      | ']' :: _ => .error .malformed
      | start => .ok (.inl start)
    else .error .malformed

/-- Where the next key of an object starts, after its quote, or the text after the closing
brace. -/
def nextKey (first : Bool) (t : Text) : Except Fault (Text ⊕ Text) :=
  match skipSpace t with
  | [] => .error .unfinished
  | '\x7d' :: rest => .ok (.inr rest)
  | c :: rest =>
    if first then if c = '\x22' then .ok (.inl rest) else .error .malformed
    else if c = ',' then
      match skipSpace rest with
      | [] => .error .unfinished
      | '\x22' :: start => .ok (.inl start)
      | _ => .error .malformed
    else .error .malformed

/-- The depth left inside an array or object; passed values have no limit. -/
def deeper (use : Use) (depth : Nat) : Except Fault Nat :=
  match use with
  | .pass => .ok depth
  | .keep => if depth ≤ 1 then .error .malformed else .ok (depth - 1)

mutual

/-- A value; `fuel` bounds the steps and `depth` the nesting. -/
def valueFrom (use : Use) : Nat → Nat → Reader Json
  | 0, _, _ => .error .unfinished
  | fuel + 1, depth, t =>
    match skipSpace t with
    | [] => .error .unfinished
    | 'n' :: rest => literalTail "ull".toList .null rest
    | 't' :: rest => literalTail "rue".toList (.bool true) rest
    | 'f' :: rest => literalTail "alse".toList (.bool false) rest
    | '\x22' :: rest => do
      let (s, rest) ← stringRest use rest
      .ok (.string s, rest)
    | '-' :: rest => do
      let (n, rest) ← numberTail use true rest
      .ok (.number n, rest)
    | '[' :: rest => do
      let depth ← deeper use depth
      let (items, rest) ← itemsFrom use fuel depth true rest
      .ok (.array items, rest)
    | '\x7b' :: rest => do
      let depth ← deeper use depth
      let (members, rest) ← membersFrom use fuel depth true rest
      .ok (.object members, rest)
    | c :: rest =>
      if c.isDigit then do
        let (n, rest) ← numberTail use false (c :: rest)
        .ok (.number n, rest)
      else .error .malformed

def itemsFrom (use : Use) : Nat → Nat → Bool → Reader (List Json)
  | 0, _, _, _ => .error .unfinished
  | fuel + 1, depth, first, t =>
    match nextItem first t with
    | .error e => .error e
    | .ok (.inr rest) => .ok ([], rest)
    | .ok (.inl start) => do
      let (item, rest) ← valueFrom use fuel depth start
      let (items, rest) ← itemsFrom use fuel depth false rest
      .ok (item :: items, rest)

def membersFrom (use : Use) : Nat → Nat → Bool → Reader (List (Text × Json))
  | 0, _, _, _ => .error .unfinished
  | fuel + 1, depth, first, t =>
    match nextKey first t with
    | .error e => .error e
    | .ok (.inr rest) => .ok ([], rest)
    | .ok (.inl start) => do
      let (key, rest) ← stringRest use start
      let ((), rest) ← colon rest
      let (value, rest) ← valueFrom use fuel depth rest
      let (members, rest) ← membersFrom use fuel depth false rest
      .ok ((key, value) :: members, rest)

end

def readValue (depth : Nat) : Reader Json := fun t =>
  valueFrom .keep (2 * t.length + 4) depth t

def passValue : Reader Unit := fun t => do
  let (_, rest) ← valueFrom .pass (2 * t.length + 4) 0 t
  .ok ((), rest)

def atEnd (t : Text) : Except Fault Unit :=
  if (skipSpace t).isEmpty then .ok () else .error .malformed

/-- The value of a whole text, members in the order written. -/
def ofText (t : Text) : Except Fault Json := do
  let (value, rest) ← readValue depthLimit t
  atEnd rest
  return value

end Pipework.Json
