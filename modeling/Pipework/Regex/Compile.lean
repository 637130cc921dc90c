import Pipework.Regex.Reader
import Pipework.Regex.Size
import Pipework.Unicode.Lookup

/-!
From the text of a pattern to a pattern that can be matched, within a bound on its size.
-/

set_option autoImplicit false
set_option relaxedAutoImplicit false

namespace Pipework.Regex

/-! ## Meaning

Flags hold from where they are set to the end of the enclosing group. Where the Unicode flag is
off, classes are sets of bytes, and whatever could match part of a character is refused.
-/

open Unicode (Ranges)

structure Flags where
  caseInsensitive : Bool
  multiLine : Bool
  dotMatchesLineFeed : Bool
  swapGreed : Bool
  unicode : Bool
  crlf : Bool
  deriving DecidableEq, Repr

def Flags.apply (flags : Flags) (items : List FlagItem) : Flags :=
  let get (f : Flag) (old : Bool) : Bool := (flagState f false items).getD old
  { caseInsensitive := get .caseInsensitive flags.caseInsensitive
    multiLine := get .multiLine flags.multiLine
    dotMatchesLineFeed := get .dotMatchesLineFeed flags.dotMatchesLineFeed
    swapGreed := get .swapGreed flags.swapGreed
    unicode := get .unicode flags.unicode
    crlf := get .crlf flags.crlf }

def refuse {α : Type} (cause : Cause) (span : Span) : Except Fault α := .error ⟨cause, span, none⟩

/-- The letters of the other case, for ASCII letters alone. -/
def closeAsciiCase (r : Ranges) : Ranges :=
  let letters (shift target : Nat) := ((List.range 26).filter fun k =>
    r.contains (shift + k)).map fun k => (target + k, target + k)
  r.union (letters 65 97 ++ letters 97 65)

/-- Close a class under case where case is ignored, then negate it. -/
def finishClass (flags : Flags) (span : Span) (negated : Bool) (r : Ranges) :
    Except Fault Ranges :=
  if flags.unicode then
    let closed := if flags.caseInsensitive then r.closeCase else r
    .ok (if negated then closed.negate else closed)
  else
    let closed := if flags.caseInsensitive then closeAsciiCase r else r
    let result := if negated then Ranges.complementTo 255 closed else closed
    if result.isAscii then .ok result else refuse .invalidBytes span

/-- The code of a literal, which where Unicode is off is a byte below 128. -/
def literalCode (flags : Flags) (l : Literal) : Except Fault Nat :=
  if !flags.unicode && l.isByte && 128 ≤ l.char.toNat then refuse .invalidBytes l.span
  else .ok l.char.toNat

def classLiteralCode (flags : Flags) (l : Literal) : Except Fault Nat := do
  let n ← literalCode flags l
  if !flags.unicode && 128 ≤ n then refuse .unicodeNotAllowed l.span else .ok n

def perlRanges (flags : Flags) (span : Span) (negated : Bool) (kind : PerlClass) :
    Except Fault Ranges :=
  if flags.unicode then
    let r := match kind with
      | .digit => Unicode.Table.decimalNumber
      | .space => Unicode.whiteSpace
      | .word => Unicode.wordRanges
    .ok (if negated then r.negate else r)
  else
    let r : Ranges := match kind with
      | .digit => [(48, 57)]
      | .space => [(9, 13), (32, 32)]
      | .word => [(48, 57), (65, 90), (95, 95), (97, 122)]
    if negated then refuse .invalidBytes span else .ok r

def propertyRanges (flags : Flags) (span : Span) (negated : Bool) (query : PropertyQuery) :
    Except Fault Ranges :=
  if !flags.unicode then refuse .unicodeNotAllowed span
  else
    let (found, isNegated) := match query with
      | .named name => (Unicode.namedRanges name, negated)
      | .valued name value isUnequal => (Unicode.valueRanges name value, negated != isUnequal)
    match found with
    | .ok r => finishClass flags span isNegated r.normalize
    | .error .noProperty => refuse .propertyNotFound span
    | .error .noValue => refuse .propertyValueNotFound span

def SetOperator.apply (op : SetOperator) (a b : Ranges) : Ranges :=
  match op with
  | .intersection => a.inter b
  | .difference => a.diff b
  | .symmetricDifference => a.symmDiff b

mutual

def ClassSet.ranges (flags : Flags) : ClassSet → Except Fault Ranges
  | .empty _ => .ok []
  | .literal l => do
    let n ← classLiteralCode flags l
    return [(n, n)]
  | .range _ low high => do
    let a ← classLiteralCode flags low
    let b ← classLiteralCode flags high
    return [(a, b)]
  | .ascii span negated r => finishClass flags span negated r
  | .property span negated query => propertyRanges flags span negated query
  | .perl span negated kind => perlRanges flags span negated kind
  | .bracketed span negated set => do finishClass flags span negated (← set.ranges flags)
  | .union _ items => do return Ranges.normalize (← ClassSet.allRanges flags items)
  | .operation _ op left right => do
    let a ← left.ranges flags
    let b ← right.ranges flags
    let close (r : Ranges) : Ranges :=
      if !flags.caseInsensitive then r
      else if flags.unicode then r.closeCase
      else closeAsciiCase r
    return op.apply (close a) (close b)

def ClassSet.allRanges (flags : Flags) : List ClassSet → Except Fault Ranges
  | [] => .ok []
  | set :: sets => do return (← set.ranges flags) ++ (← ClassSet.allRanges flags sets)

end

def Assertion.look (flags : Flags) (a : Assertion) : Look :=
  let kind := if flags.unicode then WordKind.unicode else .ascii
  match a with
  | .lineStart =>
    if !flags.multiLine then .textStart else if flags.crlf then .wideLineStart else .lineStart
  | .lineEnd =>
    if !flags.multiLine then .textEnd else if flags.crlf then .wideLineEnd else .lineEnd
  | .textStart => .textStart
  | .textEnd => .textEnd
  | .wordBoundary => .wordBoundary kind
  | .notWordBoundary => .notWordBoundary kind
  | .wordStart => .wordStart kind
  | .wordEnd => .wordEnd kind
  | .wordStartHalf => .wordStartHalf kind
  | .wordEndHalf => .wordEndHalf kind

def literalSet (flags : Flags) (n : Nat) : Ranges :=
  if !flags.caseInsensitive then [(n, n)]
  else if flags.unicode then Ranges.normalize ((Unicode.caseClass n).map fun m => (m, m))
  else closeAsciiCase [(n, n)]

def dotRanges (flags : Flags) (span : Span) : Except Fault Ranges :=
  if !flags.unicode then refuse .invalidBytes span
  else if flags.dotMatchesLineFeed then .ok [(0, Ranges.lastCode)]
  else if flags.crlf then .ok (Ranges.complement [(10, 10), (13, 13)])
  else .ok (Ranges.complement [(10, 10)])

mutual

/-- The pattern of an expression, and the flags that hold behind it. -/
def Expression.pattern (flags : Flags) : Expression → Except Fault (Pattern × Flags)
  | .empty _ => .ok (.empty, flags)
  | .flags _ items => .ok (.empty, flags.apply items)
  | .literal l => do
    let n ← literalCode flags l
    return (.set (literalSet flags n), flags)
  | .dot span => do return (.set (← dotRanges flags span), flags)
  | .assertion _ kind => .ok (.look (kind.look flags), flags)
  | .property span negated query => do
    return (.set (← propertyRanges flags span negated query), flags)
  | .perl span negated kind => do return (.set (← perlRanges flags span negated kind), flags)
  | .bracketed span negated set => do
    return (.set (← finishClass flags span negated (← set.ranges flags)), flags)
  | .repetition _ least most isLazy body => do
    let (p, inner) ← body.pattern flags
    return (.repetition p least most (isLazy != inner.swapGreed), inner)
  | .group _ isCapture items body => do
    let (p, _) ← body.pattern (flags.apply items)
    return (if isCapture then .capture p else p, flags)
  | .alternation _ branches => do
    let (ps, flags) ← Expression.branchPatterns flags branches
    return (.choice ps, flags)
  | .concat _ items => Expression.sequencePattern flags items

def Expression.sequencePattern (flags : Flags) :
    List Expression → Except Fault (Pattern × Flags)
  | [] => .ok (.empty, flags)
  | e :: es => do
    let (p, flags) ← e.pattern flags
    let (q, flags) ← Expression.sequencePattern flags es
    return (.seq p q, flags)

/-- The patterns of branches; flags set in one hold in the next. -/
def Expression.branchPatterns (flags : Flags) :
    List Expression → Except Fault (List Pattern × Flags)
  | [] => .ok ([], flags)
  | e :: es => do
    let (p, flags) ← e.pattern flags
    let (ps, flags) ← Expression.branchPatterns flags es
    return (p :: ps, flags)

end

/-! ## Compiling

Besides the faults of its text, a pattern is refused when its compiled form would be too large.
-/

/-- The bytes that the compiled form of a pattern may take. -/
def sizeLimit : Nat := 10 * 1024 * 1024

inductive CompileError
  | invalid (pattern : Text) (fault : Fault)
  | tooLarge (limit : Nat)
  deriving DecidableEq

def CompileError.message : CompileError → Text
  | .invalid pattern fault => fault.report pattern
  | .tooLarge limit =>
    "Compiled regex exceeds size limit of ".toList ++ Text.ofNat limit ++ " bytes.".toList

def Pattern.checkSize (p : Pattern) : Except CompileError Pattern :=
  if sizeLimit < p.size then .error (.tooLarge sizeLimit) else .ok p

def compile (ignoreCase : Bool) (t : Text) : Except CompileError Pattern :=
  let flags : Flags :=
    { caseInsensitive := ignoreCase, multiLine := false, dotMatchesLineFeed := false
      swapGreed := false, unicode := true, crlf := false }
  match Expression.ofText t with
  | .error fault => .error (.invalid t fault)
  | .ok e =>
    match e.pattern flags with
    | .error fault => .error (.invalid t fault)
    | .ok (p, _) => p.checkSize

/-- The pattern that matches a text and nothing else, with or without regard to case. -/
def compileLiteral (ignoreCase : Bool) (t : Text) : Except CompileError Pattern :=
  (Pattern.literal ignoreCase t).checkSize

end Pipework.Regex
