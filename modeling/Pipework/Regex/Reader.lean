import Pipework.Regex.Escape

/-!
Reading a pattern.
-/

set_option autoImplicit false
set_option relaxedAutoImplicit false

namespace Pipework.Regex

/-! ## Classes in brackets

Classes in brackets: items, ranges, named ASCII classes, nested brackets, and the operators
between them, which all bind alike and group to the left.
-/

open Step

def asciiClasses : List (String × List (Nat × Nat)) :=
  [("alnum", [(48, 57), (65, 90), (97, 122)]),
   ("alpha", [(65, 90), (97, 122)]),
   ("ascii", [(0, 127)]),
   ("blank", [(9, 9), (32, 32)]),
   ("cntrl", [(0, 31), (127, 127)]),
   ("digit", [(48, 57)]),
   ("graph", [(33, 126)]),
   ("lower", [(97, 122)]),
   ("print", [(32, 126)]),
   ("punct", [(33, 47), (58, 64), (91, 96), (123, 126)]),
   ("space", [(9, 13), (32, 32)]),
   ("upper", [(65, 90)]),
   ("word", [(48, 57), (65, 90), (95, 95), (97, 122)]),
   ("xdigit", [(48, 57), (65, 70), (97, 102)])]

def asciiRanges? (name : Text) : Option (List (Nat × Nat)) :=
  (asciiClasses.find? fun entry => entry.1.toList == name).map Prod.snd

/-- A named class after its opening bracket and colon: the name up to the next colon, which a
closing bracket follows. -/
def asciiTail (t : Text) : Option (Bool × List (Nat × Nat) × Nat) :=
  let negated := t.head? = some '^'
  let body := if negated then t.drop 1 else t
  let name := body.takeWhile (· != ':')
  match body.drop name.length with
  | ':' :: ']' :: _ =>
    (asciiRanges? name).map fun ranges =>
      (negated, ranges, name.length + 2 + if negated then 1 else 0)
  | _ => none

/-- A named class at the cursor, which stays where it is when there is none. -/
def asciiClass? : Step (Option ClassSet) := do
  let c ← cursor
  match c.rest with
  | '[' :: ':' :: tail =>
    match asciiTail tail with
    | some (negated, ranges, length) =>
      let _ ← bumpIf (c.rest.take (length + 2))
      return some (.ascii (← since c.position) negated ranges)
    | none => return none
  | _ => return none

/-- Items between two operators of a class, the last one first, and the part they cover. -/
structure Items where
  span : Span
  reversed : List ClassSet

namespace Items

def add (items : Items) (item : ClassSet) : Items :=
  let start := if items.reversed.isEmpty then item.span.start else items.span.start
  ⟨⟨start, item.span.stop⟩, item :: items.reversed⟩

def toSet (items : Items) : ClassSet := .ofItems items.span items.reversed.reverse

end Items

/-- An opened class: the part that opens it, its sign, and what it holds so far. -/
structure Opening where
  span : Span
  negated : Bool
  items : Items

/-- Hyphens at the start of a class are literal. -/
def leadingHyphens (start : Position) : Nat → Items → Step Items
  | 0, items => return items
  | fuel + 1, items => do
    if (← current) = some '-' then
      let items := items.add (.literal ⟨← hereChar, '-', false⟩)
      if !(← bumpAndSpace) then fail .classUnclosed ⟨start, start⟩
      leadingHyphens start fuel items
    else return items

/-- Open a class at its bracket. A closing bracket right after the opening is literal. -/
def openClass : Step Opening := do
  let start ← position
  if !(← bumpAndSpace) then fail .classUnclosed (← since start)
  let negated := (← current) = some '^'
  if negated then
    if !(← bumpAndSpace) then fail .classUnclosed (← since start)
  let items ← leadingHyphens start (← cursor).rest.length ⟨← here, []⟩
  if items.reversed.isEmpty && (← current) = some ']' then
    let items := items.add (.literal ⟨← hereChar, ']', false⟩)
    if !(← bumpAndSpace) then fail .classUnclosed (← since start)
    return ⟨← since start, negated, items⟩
  else return ⟨← since start, negated, items⟩

def classPrimitive : Step Primitive := do
  match ← current with
  | some '\\' => escapeSequence
  | some c =>
    let span ← hereChar
    let _ ← bump
    return .literal ⟨span, c, false⟩
  | none => fail .escapeUnexpectedEnd (← here)

/-- An item of a class, or a range of two literals. -/
def classRange (opening : Span) : Step ClassSet := do
  let low ← classPrimitive
  bumpSpace
  if (← current).isNone then fail .classUnclosed opening
  let next ← peekSpace
  if (← current) ≠ some '-' ∨ next = some ']' ∨ next = some '-' then low.toClassItem
  else
    if !(← bumpAndSpace) then fail .classUnclosed opening
    let high ← classPrimitive
    let span : Span := ⟨low.span.start, high.span.stop⟩
    let a ← low.toBoundary
    let b ← high.toBoundary
    if b.char < a.char then fail .classRangeInvalid span
    return .range span a b

def operatorOf (c : Char) : Option SetOperator :=
  match c with
  | '&' => some .intersection
  | '-' => some .difference
  | '~' => some .symmetricDifference
  | _ => none

abbrev Pending := Option (ClassSet × SetOperator)

def Pending.close (pending : Pending) (right : ClassSet) : ClassSet :=
  match pending with
  | none => right
  | some (left, op) => .operation ⟨left.span.start, right.span.stop⟩ op left right

/-- A class up to its closing bracket; `fuel` bounds the steps. -/
def classFrom (opening : Span) : Nat → Pending → Items → Step ClassSet
  | 0, _, _ => fail .classUnclosed opening
  | fuel + 1, pending, items => do
    bumpSpace
    match ← current with
    | none => fail .classUnclosed opening
    | some ']' =>
      let _ ← bump
      return pending.close items.toSet
    | some '[' =>
      match ← asciiClass? with
      | some named => classFrom opening fuel pending (items.add named)
      | none =>
        let start ← position
        let inner ← openClass
        let set ← classFrom inner.span fuel none inner.items
        classFrom opening fuel pending (items.add (.bracketed (← since start) inner.negated set))
    | some c =>
      match operatorOf c, (← peek) == some c with
      | some op, true =>
        let _ ← bump
        let _ ← bump
        classFrom opening fuel (some (pending.close items.toSet, op)) ⟨← here, []⟩
      | _, _ => classFrom opening fuel pending (items.add (← classRange opening))

def bracketClass : Step Expression := do
  let start ← position
  let opening ← openClass
  let set ← classFrom opening.span (← cursor).rest.length.succ none opening.items
  return .bracketed (← since start) opening.negated set

/-! ## Expressions

A pattern is a choice of sequences; groups nest. The nesting of groups, classes and repetitions
together is limited, which is checked on the finished expression.
-/

/-- How deep groups, classes, repetitions, sequences and choices may nest. -/
def nestingLimit : Nat := 250

def flagOf (c : Char) : Option Flag :=
  match c with
  | 'i' => some .caseInsensitive
  | 'm' => some .multiLine
  | 's' => some .dotMatchesLineFeed
  | 'U' => some .swapGreed
  | 'u' => some .unicode
  | 'R' => some .crlf
  | 'x' => some .ignoreSpace
  | _ => none

/-- Flags up to the colon or bracket behind them; `last` is the place of a minus sign just
read. -/
def flagsFrom : Nat → Option Span → List (FlagItem × Span) → Step (List FlagItem)
  | 0, _, seen => return (seen.map Prod.fst).reverse
  | fuel + 1, last, seen => do
    match ← current with
    | none => fail .flagUnexpectedEnd (← here)
    | some c =>
      if c = ':' ∨ c = ')' then
        match last with
        | some span => fail .flagDanglingNegation span
        | none => return (seen.map Prod.fst).reverse
      else
        let span ← hereChar
        let item ← match c == '-', flagOf c with
          | true, _ => pure FlagItem.negation
          | false, some f => pure (FlagItem.flag f)
          | false, none => fail .flagUnrecognized span
        match seen.find? (·.1 == item) with
        | some (_, earlier) =>
          failWith (if c = '-' then .flagRepeatedNegation else .flagDuplicate) span earlier
        | none =>
          if !(← bump) then fail .flagUnexpectedEnd (← here)
          flagsFrom fuel (if c = '-' then some span else none) ((item, span) :: seen)

def isNameChar (isFirst : Bool) (c : Char) : Bool :=
  c == '_' || Unicode.isAlphabetic c ||
    (!isFirst && (c == '.' || c == '[' || c == ']' || Unicode.isNumeric c))

def nameFrom (isFirst : Bool) : Nat → Step Text
  | 0 => return []
  | fuel + 1 => do
    match ← current with
    | none => return []
    | some '>' => return []
    | some c =>
      if !isNameChar isFirst c then fail .groupNameInvalid (← hereChar)
      let _ ← bump
      return c :: (← nameFrom false fuel)

def groupName : Step Unit := do
  if (← current).isNone then fail .groupNameUnexpectedEnd (← here)
  let start ← position
  let name ← nameFrom true (← cursor).rest.length
  let span ← since start
  if (← current).isNone then fail .groupNameUnexpectedEnd (← here)
  let _ ← bump
  if name.isEmpty then fail .groupNameEmpty (.point start)
  let c ← cursor
  match c.names.find? (·.1 == name) with
  | some (_, earlier) => failWith .groupNameDuplicate span earlier
  | none => set { c with names := (name, span) :: c.names }

inductive GroupHead
  /-- Flags for the rest of the enclosing group. -/
  | flags (e : Expression) (items : List FlagItem)
  /-- A group, with the flags that hold inside. -/
  | group (opening : Span) (isCapture : Bool) (items : List FlagItem)

def groupHead : Step GroupHead := do
  let opening ← hereChar
  let _ ← bump
  bumpSpace
  for mark in ["?=", "?!", "?<=", "?<!"] do
    if ← bumpIf mark.toList then
      fail .unsupportedLookAround (← since opening.start)
  let inner ← here
  if (← bumpIf "?P<".toList) || (← bumpIf "?<".toList) then
    groupName
    return .group opening true []
  else if ← bumpIf ['?'] then
    if (← current).isNone then fail .groupUnclosed opening
    let items ← flagsFrom (← cursor).rest.length.succ none []
    let isClosed := (← current) = some ')'
    let _ ← bump
    if isClosed then
      if items.isEmpty then fail .repetitionMissing inner
      return .flags (.flags (← since opening.start) items) items
    else return .group opening false items
  else return .group opening true []

/-- A decimal count with blanks around it; a failure is left to the caller. -/
def decimalCount : Step (Except Fault Nat) := do
  let c ← cursor
  let blanks := c.rest.takeWhile Text.isBlank
  let _ ← bumpIf blanks
  let start ← position
  let digits ← takeWhile Char.isDigit
  let span ← since start
  let _ ← takeWhile Text.isBlank
  match Text.readNat? digits with
  | none => return .error ⟨.repetitionCountDecimalEmpty, span, none⟩
  | some n => return if n < Nat.pow 2 32 then .ok n else .error ⟨.decimalInvalid, span, none⟩

def countRange (start : Position) : Step (Nat × Option Nat) := do
  if !(← bumpAndSpace) then fail .repetitionCountUnclosed (← since start)
  let least ← decimalCount
  if (← current).isNone then fail .repetitionCountUnclosed (← since start)
  if (← current) = some ',' then
    if !(← bumpAndSpace) then fail .repetitionCountUnclosed (← since start)
    if (← current) ≠ some '\x7d' then
      let least ← least
      let most ← (← decimalCount)
      return (least, some most)
    else return (← least, none)
  else
    let n ← least
    return (n, some n)

def operand : List Expression → Step (Expression × List Expression)
  | [] => do fail .repetitionMissing (← here)
  | .empty _ :: _ => do fail .repetitionMissing (← here)
  | .flags _ _ :: _ => do fail .repetitionMissing (← here)
  | e :: rest => return (e, rest)

/-- Behind the last character of an operator: step over the question mark of a lazy one. -/
def lazyMark (more : Bool) : Step Bool := do
  if more then
    if (← current) = some '?' then
      let _ ← bump
      return true
  return false

def simpleRepetition (least : Nat) (most : Option Nat) (reversed : List Expression) :
    Step (List Expression) := do
  let (e, rest) ← operand reversed
  let isLazy ← lazyMark (← bump)
  return .repetition ⟨e.span.start, ← position⟩ least most isLazy e :: rest

def countedRepetition (reversed : List Expression) : Step (List Expression) := do
  let start ← position
  let (e, rest) ← operand reversed
  let (least, most) ← countRange start
  if (← current) ≠ some '\x7d' then fail .repetitionCountUnclosed (← since start)
  let isLazy ← lazyMark (← bumpAndSpace)
  if most.any (· < least) then fail .repetitionCountInvalid (← since start)
  return .repetition ⟨e.span.start, ← position⟩ least most isLazy e :: rest

mutual

/-- The items of a sequence, the last one first, up to a bar, a closing bracket or the end. -/
def sequenceFrom : Nat → List Expression → Step (List Expression)
  | 0, reversed => return reversed
  | fuel + 1, reversed => do
    bumpSpace
    match ← current with
    | none => return reversed
    | some ')' => return reversed
    | some '|' => return reversed
    | some '(' =>
      match ← groupHead with
      | .flags e items =>
        match flagState .ignoreSpace false items with
        | some on => modify fun c => { c with ignoresSpace := on }
        | none => pure ()
        sequenceFrom fuel (e :: reversed)
      | .group opening isCapture items =>
        let outer := (← cursor).ignoresSpace
        let inside := (flagState .ignoreSpace false items).getD outer
        modify fun c => { c with ignoresSpace := inside }
        let body ← choiceFrom fuel
        if (← current).isNone then fail .groupUnclosed opening
        modify fun c => { c with ignoresSpace := outer }
        let _ ← bump
        let span ← since opening.start
        sequenceFrom fuel (.group span isCapture items body :: reversed)
    | some '[' => sequenceFrom fuel ((← bracketClass) :: reversed)
    | some '?' => sequenceFrom fuel (← simpleRepetition 0 (some 1) reversed)
    | some '*' => sequenceFrom fuel (← simpleRepetition 0 none reversed)
    | some '+' => sequenceFrom fuel (← simpleRepetition 1 none reversed)
    | some '\x7b' => sequenceFrom fuel (← countedRepetition reversed)
    | some _ => sequenceFrom fuel ((← primitive).toExpression :: reversed)

def branchesFrom : Nat → Step (List Expression)
  | 0 => return []
  | fuel + 1 => do
    let start ← position
    let reversed ← sequenceFrom fuel []
    let branch := Expression.sequence (← since start) reversed.reverse
    if (← current) = some '|' then
      let _ ← bump
      return branch :: (← branchesFrom fuel)
    else return [branch]

def choiceFrom : Nat → Step Expression
  | 0 => do return .empty (← here)
  | fuel + 1 => do
    let start ← position
    match ← branchesFrom fuel with
    | [branch] => return branch
    | branches => return .alternation (← since start) branches

end

def wholePattern : Step Expression := do
  let e ← choiceFrom (3 * (← cursor).rest.length + 3)
  if (← current).isSome then fail .groupUnopened (← hereChar)
  match e.tooDeep nestingLimit 0 with
  | some span => fail (.nestingTooDeep nestingLimit) span
  | none => return e

def Expression.ofText (pattern : Text) : Except Fault Expression :=
  wholePattern.run' ⟨pattern, ⟨0, 1, 1⟩, false, []⟩

end Pipework.Regex
