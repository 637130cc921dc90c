import Pipework.Text

/-!
Regular expressions as they are written, and why one is refused.
-/

set_option autoImplicit false
set_option relaxedAutoImplicit false

namespace Pipework.Regex

/-! ## Faults

A report repeats the pattern and marks the offending part with carets below it. A pattern of
more than one line is shown with line numbers between two dividers; a part that runs over
several lines is named by its ends instead.
-/

/-- A place in a pattern; lines and columns count from one. -/
structure Position where
  index : Nat
  line : Nat
  column : Nat
  deriving DecidableEq, Repr

def Position.after (p : Position) (c : Char) : Position :=
  if c = '\n' then ⟨p.index + 1, p.line + 1, 1⟩ else ⟨p.index + 1, p.line, p.column + 1⟩

/-- A part of a pattern, from its first place up to the place behind it. -/
structure Span where
  start : Position
  stop : Position
  deriving DecidableEq, Repr

namespace Span

def point (p : Position) : Span := ⟨p, p⟩

def isOneLine (s : Span) : Bool := s.start.line == s.stop.line

def le (a b : Span) : Bool :=
  a.start.index < b.start.index ||
    (a.start.index == b.start.index && a.stop.index ≤ b.stop.index)

end Span

inductive Cause
  | classEscapeInvalid
  | classRangeInvalid
  | classRangeLiteral
  | classUnclosed
  | decimalEmpty
  | decimalInvalid
  | escapeHexEmpty
  | escapeHexInvalid
  | escapeHexInvalidDigit
  | escapeUnexpectedEnd
  | escapeUnrecognized
  | flagDanglingNegation
  | flagDuplicate
  | flagRepeatedNegation
  | flagUnexpectedEnd
  | flagUnrecognized
  | groupNameDuplicate
  | groupNameEmpty
  | groupNameInvalid
  | groupNameUnexpectedEnd
  | groupUnclosed
  | groupUnopened
  | nestingTooDeep (limit : Nat)
  | repetitionCountInvalid
  | repetitionCountDecimalEmpty
  | repetitionCountUnclosed
  | repetitionMissing
  | wordBoundaryUnclosed
  | wordBoundaryUnrecognized
  | wordBoundaryOrRepetitionUnexpectedEnd
  | unicodeClassInvalid
  | unsupportedBackreference
  | unsupportedLookAround
  | unicodeNotAllowed
  | invalidBytes
  | propertyNotFound
  | propertyValueNotFound
  deriving DecidableEq, Repr

def Cause.message : Cause → String
  | .classEscapeInvalid => "invalid escape sequence found in character class"
  | .classRangeInvalid => "invalid character class range, the start must be <= the end"
  | .classRangeLiteral => "invalid range boundary, must be a literal"
  | .classUnclosed => "unclosed character class"
  | .decimalEmpty => "decimal literal empty"
  | .decimalInvalid => "decimal literal invalid"
  | .escapeHexEmpty => "hexadecimal literal empty"
  | .escapeHexInvalid => "hexadecimal literal is not a Unicode scalar value"
  | .escapeHexInvalidDigit => "invalid hexadecimal digit"
  | .escapeUnexpectedEnd =>
    "incomplete escape sequence, reached end of pattern prematurely"
  | .escapeUnrecognized => "unrecognized escape sequence"
  | .flagDanglingNegation => "dangling flag negation operator"
  | .flagDuplicate => "duplicate flag"
  | .flagRepeatedNegation => "flag negation operator repeated"
  | .flagUnexpectedEnd => "expected flag but got end of regex"
  | .flagUnrecognized => "unrecognized flag"
  | .groupNameDuplicate => "duplicate capture group name"
  | .groupNameEmpty => "empty capture group name"
  | .groupNameInvalid => "invalid capture group character"
  | .groupNameUnexpectedEnd => "unclosed capture group name"
  | .groupUnclosed => "unclosed group"
  | .groupUnopened => "unopened group"
  | .nestingTooDeep limit =>
    "exceed the maximum number of nested parentheses/brackets (" ++
      String.ofList (Text.ofNat limit) ++ ")"
  | .repetitionCountInvalid =>
    "invalid repetition count range, the start must be <= the end"
  | .repetitionCountDecimalEmpty => "repetition quantifier expects a valid decimal"
  | .repetitionCountUnclosed => "unclosed counted repetition"
  | .repetitionMissing => "repetition operator missing expression"
  | .wordBoundaryUnclosed =>
    "special word boundary assertion is either unclosed or contains an invalid character"
  | .wordBoundaryUnrecognized =>
    "unrecognized special word boundary assertion, valid choices are: start, end, start-half " ++
      "or end-half"
  | .wordBoundaryOrRepetitionUnexpectedEnd =>
    "found either the beginning of a special word boundary or a bounded repetition on a \\b " ++
      "with an opening brace, but no closing brace"
  | .unicodeClassInvalid => "invalid Unicode character class"
  | .unsupportedBackreference => "backreferences are not supported"
  | .unsupportedLookAround =>
    "look-around, including look-ahead and look-behind, is not supported"
  | .unicodeNotAllowed => "Unicode not allowed here"
  | .invalidBytes => "pattern can match invalid UTF-8"
  | .propertyNotFound => "Unicode property not found"
  | .propertyValueNotFound => "Unicode property value not found"

/-- A cause with the part of the pattern at fault, and an earlier part it collides with. -/
structure Fault where
  cause : Cause
  span : Span
  other : Option Span
  deriving DecidableEq, Repr

namespace Report

/-- The lines of a pattern: a final line feed starts no line, and a carriage return in front of
a line feed belongs to neither line. -/
def patternLines (pattern : Text) : List Text :=
  let all := Text.lines pattern
  let ended := all.dropLast.map fun line =>
    if line.getLast? = some '\r' then line.dropLast else line
  match all.getLast? with
  | some [] => ended
  | some last => ended ++ [last]
  | none => ended

/-- How many lines a pattern counts, its last one included when it is empty. -/
def lineCount (pattern : Text) : Nat :=
  (patternLines pattern).length + if pattern.getLast? = some '\n' then 1 else 0

/-- The carets of the parts on one line, from left to right, after `done` columns. -/
def caretsFrom (done : Nat) : List Span → Text
  | [] => []
  | s :: rest =>
    let gap := s.start.column - 1 - done
    let width := max 1 (s.stop.column - s.start.column)
    List.replicate gap ' ' ++ List.replicate width '^' ++ caretsFrom (done + gap + width) rest

def padded (width n : Nat) : Text :=
  let digits := Text.ofNat n
  List.replicate (width - digits.length) ' ' ++ digits

def notated (pattern : Text) (spans : List Span) : Text :=
  let count := lineCount pattern
  let width := if count ≤ 1 then 0 else (Text.ofNat count).length
  let margin := if width = 0 then 4 else width + 2
  ((patternLines pattern).zipIdx 1).flatMap fun (line, number) =>
    let lead := if width = 0 then List.replicate 4 ' ' else padded width number ++ [':', ' ']
    let marks := (spans.filter fun s => s.isOneLine && s.start.line == number).mergeSort Span.le
    let carets := if marks.isEmpty then []
      else List.replicate margin ' ' ++ caretsFrom 0 marks ++ ['\n']
    lead ++ line ++ '\n' :: carets

def rangeNote (s : Span) : Text :=
  "on line ".toList ++ Text.ofNat s.start.line ++ " (column ".toList ++
    Text.ofNat s.start.column ++ ") through line ".toList ++ Text.ofNat s.stop.line ++
    " (column ".toList ++ Text.ofNat (s.stop.column - 1) ++ [')']

end Report

def Fault.report (pattern : Text) (f : Fault) : Text :=
  let spans := f.span :: f.other.toList
  let head := "regex parse error:\n".toList
  let tail := "error: ".toList ++ f.cause.message.toList
  let shown := Report.notated pattern spans
  if pattern.contains '\n' then
    let divider := List.replicate 79 '~' ++ ['\n']
    let wide := (spans.filter fun s => !s.isOneLine).mergeSort Span.le
    let notes := if wide.isEmpty then []
      else Text.join ['\n'] (wide.map Report.rangeNote) ++ ['\n']
    head ++ divider ++ shown ++ divider ++ notes ++ tail
  else head ++ shown ++ tail

/-! ## Expressions

Patterns as they are written: every node keeps the part of the text it was read from.
-/

inductive Flag
  | caseInsensitive
  | multiLine
  | dotMatchesLineFeed
  | swapGreed
  | unicode
  | crlf
  | ignoreSpace
  deriving DecidableEq, Repr

inductive FlagItem
  | negation
  | flag (f : Flag)
  deriving DecidableEq, Repr

/-- What a group of flags sets a flag to, if it names the flag. -/
def flagState (f : Flag) : Bool → List FlagItem → Option Bool
  | _, [] => none
  | _, .negation :: rest => flagState f true rest
  | negated, .flag g :: rest => if g = f then some (!negated) else flagState f negated rest

/-- A literal character; `isByte` when it was written with two hexadecimal digits, which stand
for a byte where the Unicode flag is off. -/
structure Literal where
  span : Span
  char : Char
  isByte : Bool
  deriving DecidableEq, Repr

inductive PerlClass
  | digit
  | space
  | word
  deriving DecidableEq, Repr

inductive PropertyQuery
  | named (name : Text)
  | valued (name value : Text) (isUnequal : Bool)
  deriving DecidableEq, Repr

inductive SetOperator
  | intersection
  | difference
  | symmetricDifference
  deriving DecidableEq, Repr

inductive ClassSet
  | empty (span : Span)
  | literal (l : Literal)
  | range (span : Span) (low high : Literal)
  | ascii (span : Span) (negated : Bool) (ranges : List (Nat × Nat))
  | property (span : Span) (negated : Bool) (query : PropertyQuery)
  | perl (span : Span) (negated : Bool) (kind : PerlClass)
  | bracketed (span : Span) (negated : Bool) (set : ClassSet)
  | union (span : Span) (items : List ClassSet)
  | operation (span : Span) (op : SetOperator) (left right : ClassSet)

def ClassSet.span : ClassSet → Span
  | .empty span => span
  | .literal l => l.span
  | .range span _ _ => span
  | .ascii span _ _ => span
  | .property span _ _ => span
  | .perl span _ _ => span
  | .bracketed span _ _ => span
  | .union span _ => span
  | .operation span _ _ _ => span

inductive Assertion
  | lineStart
  | lineEnd
  | textStart
  | textEnd
  | wordBoundary
  | notWordBoundary
  | wordStart
  | wordEnd
  | wordStartHalf
  | wordEndHalf
  deriving DecidableEq, Repr

inductive Expression
  | empty (span : Span)
  | flags (span : Span) (items : List FlagItem)
  | literal (l : Literal)
  | dot (span : Span)
  | assertion (span : Span) (kind : Assertion)
  | property (span : Span) (negated : Bool) (query : PropertyQuery)
  | perl (span : Span) (negated : Bool) (kind : PerlClass)
  | bracketed (span : Span) (negated : Bool) (set : ClassSet)
  /-- A lazy repetition prefers fewer rounds; it matches the same lines. -/
  | repetition (span : Span) (least : Nat) (most : Option Nat) (isLazy : Bool)
    (body : Expression)
  | group (span : Span) (isCapture : Bool) (items : List FlagItem) (body : Expression)
  | alternation (span : Span) (branches : List Expression)
  | concat (span : Span) (items : List Expression)

def Expression.span : Expression → Span
  | .empty span => span
  | .flags span _ => span
  | .literal l => l.span
  | .dot span => span
  | .assertion span _ => span
  | .property span _ _ => span
  | .perl span _ _ => span
  | .bracketed span _ _ => span
  | .repetition span _ _ _ _ => span
  | .group span _ _ _ => span
  | .alternation span _ => span
  | .concat span _ => span

/-- A sequence of expressions; a single one stands for itself. -/
def Expression.sequence (span : Span) : List Expression → Expression
  | [] => .empty span
  | [one] => one
  | items => .concat span items

/-- The items between two operators of a class; a single one stands for itself. -/
def ClassSet.ofItems (span : Span) : List ClassSet → ClassSet
  | [] => .empty span
  | [one] => one
  | items => .union span items

mutual

/-- The first class, in the order written, that lies deeper than the limit. -/
def ClassSet.tooDeep (limit depth : Nat) : ClassSet → Option Span
  | .bracketed span _ set =>
    if limit ≤ depth then some span else set.tooDeep limit (depth + 1)
  | .union span items =>
    if limit ≤ depth then some span else ClassSet.anyTooDeep limit (depth + 1) items
  | .operation span _ left right =>
    if limit ≤ depth then some span
    else (left.tooDeep limit (depth + 1)).orElse fun _ => right.tooDeep limit (depth + 1)
  | _ => none

def ClassSet.anyTooDeep (limit depth : Nat) : List ClassSet → Option Span
  | [] => none
  | set :: sets => (set.tooDeep limit depth).orElse fun _ => ClassSet.anyTooDeep limit depth sets

end

mutual

/-- The first expression, in the order written, that lies deeper than the limit. -/
def Expression.tooDeep (limit depth : Nat) : Expression → Option Span
  | .bracketed span _ set =>
    if limit ≤ depth then some span else set.tooDeep limit (depth + 1)
  | .repetition span _ _ _ body =>
    if limit ≤ depth then some span else body.tooDeep limit (depth + 1)
  | .group span _ _ body =>
    if limit ≤ depth then some span else body.tooDeep limit (depth + 1)
  | .alternation span branches =>
    if limit ≤ depth then some span else Expression.anyTooDeep limit (depth + 1) branches
  | .concat span items =>
    if limit ≤ depth then some span else Expression.anyTooDeep limit (depth + 1) items
  | _ => none

def Expression.anyTooDeep (limit depth : Nat) : List Expression → Option Span
  | [] => none
  | e :: es => (e.tooDeep limit depth).orElse fun _ => Expression.anyTooDeep limit depth es

end

end Pipework.Regex
