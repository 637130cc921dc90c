import Pipework.Regex.Expression
import Pipework.Unicode.Property

/-!
The text of a pattern from left to right, and its escapes.
-/

set_option autoImplicit false
set_option relaxedAutoImplicit false

namespace Pipework.Regex

/-! ## Places

Walking over a pattern: the rest of the text, the place reached, and whether blanks and comments
are passed over. Every step either fails with a fault or moves the cursor on.
-/

structure Cursor where
  /-- What is still to be read. -/
  rest : Text
  position : Position
  /-- Blanks and comments are passed over. -/
  ignoresSpace : Bool
  /-- The names of groups so far. -/
  names : List (Text × Span)

abbrev Step (α : Type) := StateT Cursor (Except Fault) α

namespace Step

def cursor : Step Cursor := get

def fail {α : Type} (cause : Cause) (span : Span) : Step α := throw ⟨cause, span, none⟩

def failWith {α : Type} (cause : Cause) (span other : Span) : Step α :=
  throw ⟨cause, span, some other⟩

def current : Step (Option Char) := do return (← cursor).rest.head?

def position : Step Position := do return (← cursor).position

/-- The empty part at the cursor. -/
def here : Step Span := do return .point (← position)

def hereChar : Step Span := do
  let c ← cursor
  match c.rest with
  | [] => return .point c.position
  | x :: _ => return ⟨c.position, c.position.after x⟩

def since (start : Position) : Step Span := do return ⟨start, ← position⟩

/-- Move over one character; whether another follows. -/
def bump : Step Bool := do
  let c ← cursor
  match c.rest with
  | [] => return false
  | x :: rest =>
    set { c with rest := rest, position := c.position.after x }
    return !rest.isEmpty

/-- Move over a text if it stands at the cursor. -/
def bumpIf (t : Text) : Step Bool := do
  let c ← cursor
  if t.isPrefixOf c.rest then
    set { c with rest := c.rest.drop t.length, position := t.foldl .after c.position }
    return true
  else return false

def spaceFrom : Bool → Text → Position → Text × Position
  | _, [], p => ([], p)
  | true, c :: cs, p => spaceFrom (c != '\n') cs (p.after c)
  | false, c :: cs, p =>
    if Text.isBlank c then spaceFrom false cs (p.after c)
    else if c = '#' then spaceFrom true cs (p.after c)
    else (c :: cs, p)

/-- Move over blanks and comments where they are passed over. -/
def bumpSpace : Step Unit := do
  let c ← cursor
  if c.ignoresSpace then
    let (rest, position) := spaceFrom false c.rest c.position
    set { c with rest := rest, position := position }

def bumpAndSpace : Step Bool := do
  if ← bump then
    bumpSpace
    return !(← cursor).rest.isEmpty
  else return false

/-- The character behind blanks; a comment counts up to the first blank in it. -/
def firstVisible : Bool → Text → Option Char
  | _, [] => none
  | inComment, c :: cs =>
    if Text.isBlank c then firstVisible inComment cs
    else if !inComment && c = '#' then firstVisible true cs
    else some c

def peek : Step (Option Char) := do return ((← cursor).rest.drop 1).head?

def peekSpace : Step (Option Char) := do
  let c ← cursor
  let tail := c.rest.drop 1
  if c.ignoresSpace then return (firstVisible false tail).orElse fun _ => tail.head?
  else return tail.head?

def collectWhile (p : Char → Bool) : Nat → Step Text
  | 0 => return []
  | fuel + 1 => do
    match ← current with
    | some c =>
      if p c then
        let _ ← bumpAndSpace
        return c :: (← collectWhile p fuel)
      else return []
    | none => return []

def takeWhile (p : Char → Bool) : Step Text := do collectWhile p (← cursor).rest.length

end Step

/-! ## Escapes

What a backslash, a brace or a single character stands for.
-/

open Step

inductive Primitive
  | literal (l : Literal)
  | assertion (span : Span) (kind : Assertion)
  | dot (span : Span)
  | perl (span : Span) (negated : Bool) (kind : PerlClass)
  | property (span : Span) (negated : Bool) (query : PropertyQuery)

namespace Primitive

def span : Primitive → Span
  | .literal l => l.span
  | .assertion span _ => span
  | .dot span => span
  | .perl span _ _ => span
  | .property span _ _ => span

def toExpression : Primitive → Expression
  | .literal l => .literal l
  | .assertion span kind => .assertion span kind
  | .dot span => .dot span
  | .perl span negated kind => .perl span negated kind
  | .property span negated query => .property span negated query

/-- As an item of a class; assertions are none. -/
def toClassItem : Primitive → Step ClassSet
  | .literal l => return .literal l
  | .perl span negated kind => return .perl span negated kind
  | .property span negated query => return .property span negated query
  | p => fail .classEscapeInvalid p.span

/-- As an end of a range, which only literals are. -/
def toBoundary : Primitive → Step Literal
  | .literal l => return l
  | p => fail .classRangeLiteral p.span

end Primitive

/-- Characters with a meaning of their own somewhere in a pattern. -/
def isMeta (c : Char) : Bool := "\\.+*?()|[]\x7b\x7d^$#&-~".toList.contains c

/-- Characters that a backslash leaves as they are. -/
def isEscapable (c : Char) : Bool :=
  isMeta c || (c.toNat < 128 && !c.isAlphanum && c != '<' && c != '>')

def scalar? (n : Nat) : Option Char := if h : n.isValidChar then some (Char.ofNatAux n h) else none

/-- Exactly `count` hexadecimal digits, then what is passed over. -/
def hexDigits (first : Bool) : Nat → Step Text
  | 0 => do
    let _ ← bumpAndSpace
    return []
  | count + 1 => do
    if !first then
      if !(← bumpAndSpace) then fail .escapeUnexpectedEnd (← here)
    match ← current with
    | some c =>
      if (Text.hexValue? c).isNone then fail .escapeHexInvalidDigit (← hereChar)
      return c :: (← hexDigits false count)
    | none => fail .escapeUnexpectedEnd (← here)

def hexUntilBrace : Nat → Step Text
  | 0 => return []
  | fuel + 1 => do
    if !(← bumpAndSpace) then return []
    match ← current with
    | some '\x7d' => return []
    | some c =>
      if (Text.hexValue? c).isNone then fail .escapeHexInvalidDigit (← hereChar)
      return c :: (← hexUntilBrace fuel)
    | none => return []

def hexChar? (digits : Text) : Option Char :=
  ((Text.readHex 0 digits).filter (· < Nat.pow 2 32)).bind scalar?

def hexBraced : Step Char := do
  let brace ← position
  let start := (← hereChar).stop
  let digits ← hexUntilBrace (← cursor).rest.length
  if (← current).isNone then fail .escapeUnexpectedEnd (← since brace)
  let stop ← position
  let _ ← bumpAndSpace
  if digits.isEmpty then fail .escapeHexEmpty (← since brace)
  match hexChar? digits with
  | some c => return c
  | none => fail .escapeHexInvalid ⟨start, stop⟩

/-- The letter after the backslash, then two, four or eight digits, or digits in braces. -/
def hexEscape (slash : Position) (letter : Char) : Step Literal := do
  if !(← bumpAndSpace) then fail .escapeUnexpectedEnd (← here)
  if (← current) = some '\x7b' then
    let c ← hexBraced
    return ⟨← since slash, c, false⟩
  else
    let start ← position
    let count := if letter = 'x' then 2 else if letter = 'u' then 4 else 8
    let digits ← hexDigits true count
    match hexChar? digits with
    | some c => return ⟨← since slash, c, letter = 'x'⟩
    | none => fail .escapeHexInvalid (← since start)

/-- The name in braces after the letter of a property. -/
def nameUntilBrace : Nat → Step Text
  | 0 => return []
  | fuel + 1 => do
    if !(← bumpAndSpace) then return []
    match ← current with
    | some '\x7d' => return []
    | some c => return c :: (← nameUntilBrace fuel)
    | none => return []

def cutAt (separator : Text) : Text → Option (Text × Text)
  | [] => none
  | c :: cs =>
    if separator.isPrefixOf (c :: cs) then some ([], (c :: cs).drop separator.length)
    else (cutAt separator cs).map fun (before, after) => (c :: before, after)

def PropertyQuery.ofText (t : Text) : PropertyQuery :=
  match cutAt ['!', '='] t, cutAt [':'] t, cutAt ['='] t with
  | some (name, value), _, _ => .valued name value true
  | none, some (name, value), _ => .valued name value false
  | none, none, some (name, value) => .valued name value false
  | none, none, none => .named t

def propertyEscape (slash : Position) (negated : Bool) : Step Primitive := do
  if !(← bumpAndSpace) then fail .escapeUnexpectedEnd (← here)
  match ← current with
  | some '\x7b' =>
    let name ← nameUntilBrace (← cursor).rest.length
    if (← current).isNone then fail .escapeUnexpectedEnd (← here)
    let _ ← bump
    return .property (← since slash) negated (.ofText name)
  | some '\\' => fail .unicodeClassInvalid (← hereChar)
  | some c =>
    let _ ← bumpAndSpace
    return .property (← since slash) negated (.named [c])
  | none => fail .escapeUnexpectedEnd (← here)

/-- Letters and hyphens, the characters of the name of a word boundary. -/
def isBoundaryChar (c : Char) : Bool := c.isAlpha || c == '-'

/-- The kind of a word boundary named in braces, or nothing when the brace opens a count. -/
def namedBoundary (slash : Position) : Step (Option Assertion) := do
  let before ← cursor
  if !(← bumpAndSpace) then
    fail .wordBoundaryOrRepetitionUnexpectedEnd (← since slash)
  let start ← position
  if !((← current).any isBoundaryChar) then
    set before
    return none
  let name ← takeWhile isBoundaryChar
  if (← current) ≠ some '\x7d' then fail .wordBoundaryUnclosed (← since before.position)
  let stop ← position
  let _ ← bump
  if name = "start".toList then return some .wordStart
  else if name = "end".toList then return some .wordEnd
  else if name = "start-half".toList then return some .wordStartHalf
  else if name = "end-half".toList then return some .wordEndHalf
  else fail .wordBoundaryUnrecognized ⟨start, stop⟩

def controlOf (c : Char) : Option Char :=
  match c with
  | 'a' => some '\x07'
  | 'f' => some '\x0c'
  | 't' => some '\t'
  | 'n' => some '\n'
  | 'r' => some '\r'
  | 'v' => some '\x0b'
  | _ => none

def assertionOf (c : Char) : Option Assertion :=
  match c with
  | 'A' => some .textStart
  | 'z' => some .textEnd
  | 'b' => some .wordBoundary
  | 'B' => some .notWordBoundary
  | '<' => some .wordStart
  | '>' => some .wordEnd
  | _ => none

def perlOf (c : Char) : Option (Bool × PerlClass) :=
  match c with
  | 'd' => some (false, .digit)
  | 'D' => some (true, .digit)
  | 's' => some (false, .space)
  | 'S' => some (true, .space)
  | 'w' => some (false, .word)
  | 'W' => some (true, .word)
  | _ => none

def escapeSequence : Step Primitive := do
  let slash ← position
  if !(← bump) then fail .escapeUnexpectedEnd (← since slash)
  match ← current with
  | none => fail .escapeUnexpectedEnd (← since slash)
  | some c =>
    if c.isDigit then fail .unsupportedBackreference ⟨slash, (← hereChar).stop⟩
    if c = 'x' ∨ c = 'u' ∨ c = 'U' then return .literal (← hexEscape slash c)
    if c = 'p' ∨ c = 'P' then return ← propertyEscape slash (c = 'P')
    let _ ← bump
    let span ← since slash
    match perlOf c with
    | some (negated, kind) => return .perl span negated kind
    | none =>
      if isEscapable c then return .literal ⟨span, c, false⟩
      match controlOf c, assertionOf c with
      | some d, _ => return .literal ⟨span, d, false⟩
      | none, some kind =>
        if c = 'b' ∧ (← current) = some '\x7b' then
          match ← namedBoundary slash with
          | some named => return .assertion (← since slash) named
          | none => return .assertion span kind
        else return .assertion span kind
      | none, none => fail .escapeUnrecognized span

/-- The primitive at the cursor, which is not at the end. -/
def primitive : Step Primitive := do
  match ← current with
  | some '\\' => escapeSequence
  | some c =>
    let span ← hereChar
    let _ ← bump
    match c with
    | '.' => return .dot span
    | '^' => return .assertion span .lineStart
    | '$' => return .assertion span .lineEnd
    | _ => return .literal ⟨span, c, false⟩
  | none => fail .escapeUnexpectedEnd (← here)

end Pipework.Regex
