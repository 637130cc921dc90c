import Pipework.Unicode.Property

/-!
Patterns that can be matched, and their simplified shapes.
-/

set_option autoImplicit false
set_option relaxedAutoImplicit false

namespace Pipework.Regex

/-! ## Matching

A pattern denotes a function on sets of places of a line: from the places where a match may start
to the places where it may end. A set is a list with a truth value for every place, from the one
in front of the line to the one behind it. Sequence is composition, choice is union, and a
repetition iterates; since a line of `n` characters has `n + 1` places, more than `n + 1` rounds
add nothing.
-/

open Unicode (Ranges)

inductive WordKind
  | ascii
  | unicode
  deriving DecidableEq, Repr

inductive Look
  | textStart
  | textEnd
  | lineStart
  | lineEnd
  /-- Line ends of one or two characters; the place between the two is neither. -/
  | wideLineStart
  | wideLineEnd
  | wordBoundary (kind : WordKind)
  | notWordBoundary (kind : WordKind)
  | wordStart (kind : WordKind)
  | wordEnd (kind : WordKind)
  | wordStartHalf (kind : WordKind)
  | wordEndHalf (kind : WordKind)
  deriving DecidableEq, Repr

inductive Pattern
  | empty
  | set (r : Ranges)
  | look (l : Look)
  | seq (first second : Pattern)
  | choice (branches : List Pattern)
  /-- A group that is counted when the size of a pattern is measured. -/
  | capture (body : Pattern)
  | repetition (body : Pattern) (least : Nat) (most : Option Nat) (isLazy : Bool)

structure Place where
  before : Option Char
  after : Option Char
  deriving DecidableEq, Repr

def placesFrom (before : Option Char) : Text → List Place
  | [] => [⟨before, none⟩]
  | c :: cs => ⟨before, some c⟩ :: placesFrom (some c) cs

/-- The places of a line, one more than it has characters. -/
def places (line : Text) : List Place := placesFrom none line

def isAsciiWord (c : Char) : Bool := c.isAlphanum || c == '_'

def WordKind.holds (kind : WordKind) (c : Option Char) : Bool :=
  match kind with
  | .ascii => c.any isAsciiWord
  | .unicode => c.any Unicode.isWord

def Look.holds (l : Look) (p : Place) : Bool :=
  match l with
  | .textStart => p.before.isNone
  | .textEnd => p.after.isNone
  | .lineStart => p.before.all (· == '\n')
  | .lineEnd => p.after.all (· == '\n')
  | .wideLineStart =>
    p.before.all fun c => c == '\n' || (c == '\r' && p.after != some '\n')
  | .wideLineEnd =>
    p.after.all fun c => c == '\r' || (c == '\n' && p.before != some '\r')
  | .wordBoundary k => k.holds p.before != k.holds p.after
  | .notWordBoundary k => k.holds p.before == k.holds p.after
  | .wordStart k => !k.holds p.before && k.holds p.after
  | .wordEnd k => k.holds p.before && !k.holds p.after
  | .wordStartHalf k => !k.holds p.before
  | .wordEndHalf k => !k.holds p.after

/-- A set of places, one truth value for each. -/
abbrev Marks := List Bool

def Marks.union (a b : Marks) : Marks := a.zipWith (· || ·) b

def Marks.diff (a b : Marks) : Marks := a.zipWith (fun x y => x && !y) b

def advance (r : Ranges) (line : List Place) (m : Marks) : Marks :=
  false :: (line.zipWith (fun p b => b && p.after.any fun c => r.contains c.toNat) m).dropLast

def times (f : Marks → Marks) : Nat → Marks → Marks
  | 0, m => m
  | n + 1, m => times f n (f m)

/-- All places reached in at most `n` rounds; only newly reached places are carried on. -/
def spread (f : Marks → Marks) : Nat → Marks → Marks → Marks
  | 0, reached, _ => reached
  | n + 1, reached, fresh =>
    let next := Marks.diff (f fresh) reached
    if next.any id then spread f n (Marks.union reached next) next else reached

mutual

/-- Where matches that start in a set may end. -/
def Pattern.ends (line : List Place) : Pattern → Marks → Marks
  | .empty, m => m
  | .set r, m => advance r line m
  | .look l, m => line.zipWith (fun p b => b && l.holds p) m
  | .seq first second, m => second.ends line (first.ends line m)
  | .choice branches, m => Pattern.endsOfAny line branches m
  | .capture body, m => body.ends line m
  | .repetition body least most _, m =>
    let start := times (body.ends line) (min least line.length) m
    let rounds := match most with
      | none => line.length
      | some k => min (k - least) line.length
    spread (body.ends line) rounds start start

def Pattern.endsOfAny (line : List Place) : List Pattern → Marks → Marks
  | [], m => m.map fun _ => false
  | p :: ps, m => Marks.union (p.ends line m) (Pattern.endsOfAny line ps m)

end

def Pattern.matchesIn (p : Pattern) (line : Text) : Bool :=
  let all := places line
  (p.ends all (all.map fun _ => true)).any id

def literalRanges (ignoreCase : Bool) (c : Char) : Ranges :=
  if ignoreCase then Ranges.normalize ((Unicode.caseClass c.toNat).map fun n => (n, n))
  else [(c.toNat, c.toNat)]

/-- The pattern that matches a text and nothing else, up to case where case is ignored. -/
def Pattern.literal (ignoreCase : Bool) : Text → Pattern
  | [] => .empty
  | c :: cs => .seq (.set (literalRanges ignoreCase c)) (Pattern.literal ignoreCase cs)

/-! ## Shapes

A shape is a pattern in simplest form: neighbouring literals are one literal, sequences and
choices are flat, a choice of characters is a set, a common start of all branches stands in front
of the choice, and a pattern that consumes nothing is not repeated.
-/

inductive Shape
  | empty
  | literal (codes : List Nat)
  | set (r : Ranges)
  | look (l : Look)
  | repetition (body : Shape) (least : Nat) (most : Option Nat) (isLazy : Bool)
  | capture (body : Shape)
  | sequence (items : List Shape)
  | choice (branches : List Shape)

namespace Shape

mutual

def isWeightless : Shape → Bool
  | .empty => true
  | .literal codes => codes.isEmpty
  | .set _ => false
  | .look _ => true
  | .repetition body _ most _ => most.isSome && body.isWeightless
  | .capture body => body.isWeightless
  | .sequence items => areWeightless items
  | .choice branches => areWeightless branches

def areWeightless : List Shape → Bool
  | [] => true
  | s :: rest => s.isWeightless && areWeightless rest

end

mutual

/-- The fewest characters that a match consumes; none if some part cannot match. -/
def minLength : Shape → Option Nat
  | .empty => some 0
  | .literal codes => some codes.length
  | .set r => if r.isEmpty then none else some 1
  | .look _ => some 0
  | .repetition body least _ _ => body.minLength.map (least * ·)
  | .capture body => body.minLength
  | .sequence items => totalLength items
  | .choice branches => leastLength branches

def totalLength : List Shape → Option Nat
  | [] => some 0
  | s :: rest => do return (← s.minLength) + (← totalLength rest)

def leastLength : List Shape → Option Nat
  | [] => none
  | [s] => s.minLength
  | s :: rest => do return min (← s.minLength) (← leastLength rest)

end

mutual

/-- Whether two shapes are the same; captures are told apart by their number and never are. -/
def same : Shape → Shape → Bool
  | .empty, .empty => true
  | .literal a, .literal b => a == b
  | .set a, .set b => a == b
  | .look a, .look b => a == b
  | .repetition a n m l, .repetition b n' m' l' => n == n' && m == m' && l == l' && a.same b
  | .sequence as, .sequence bs => allSame as bs
  | .choice as, .choice bs => allSame as bs
  | _, _ => false

def allSame : List Shape → List Shape → Bool
  | [], [] => true
  | a :: as, b :: bs => a.same b && allSame as bs
  | _, _ => false

end

/-- The shape of a set; a set of one character is a literal. -/
def ofRanges (r : Ranges) : Shape :=
  match r.scalars with
  | [(low, high)] => if low = high then .literal [low] else .set [(low, high)]
  | r => .set r

def items : Shape → List Shape
  | .empty => []
  | .sequence xs => xs
  | s => [s]

def ofItems : List Shape → Shape
  | [] => .empty
  | [s] => s
  | xs => .sequence xs

/-- Two lists of items as one; literals that meet become one. -/
def joinItems : List Shape → List Shape → List Shape
  | [], ys => ys
  | [.literal s], .literal t :: ys => .literal (s ++ t) :: ys
  | x :: xs, ys => x :: joinItems xs ys

def append (a b : Shape) : Shape := ofItems (joinItems a.items b.items)

def branches : Shape → List Shape
  | .choice xs => xs
  | s => [s]

def code? : Shape → Option Nat
  | .literal [n] => some n
  | _ => none

def ranges? : Shape → Option Ranges
  | .set r => some r
  | _ => none

def sequence? : Shape → Option (List Shape)
  | .sequence xs => some xs
  | _ => none

/-- Branches that are all characters, or all sets, as one set; other branches as a choice. -/
def ofFlatBranches (all : List Shape) : Shape :=
  match all.mapM code? with
  | some codes => ofRanges (codes.map fun n => (n, n))
  | none =>
    match all.mapM ranges? with
    | some sets => ofRanges sets.flatten
    | none => .choice all

def commonItems : List Shape → List Shape → List Shape
  | a :: as, b :: bs => if a.same b then a :: commonItems as bs else []
  | _, _ => []

def commonStart : List (List Shape) → List Shape
  | [] => []
  | [row] => row
  | row :: rows => commonItems row (commonStart rows)

/-- Put what all branches of a choice start with in front of it. -/
def liftStart : Shape → Shape
  | .choice all =>
    match all.mapM sequence? with
    | none => .choice all
    | some rows =>
      let start := commonStart rows
      if start.isEmpty then .choice all
      else
        let rests := rows.flatMap fun row => (ofItems (row.drop start.length)).branches
        ofItems (joinItems start (ofFlatBranches rests).items)
  | s => s

/-- The choice between shapes; without any, nothing matches. -/
def ofBranches (all : List Shape) : Shape :=
  match all.flatMap branches with
  | [] => .set []
  | [s] => s
  | flat => (ofFlatBranches flat).liftStart

/-- A repetition; what consumes nothing is there at most once. -/
def repeated (body : Shape) (least : Nat) (most : Option Nat) (isLazy : Bool) : Shape :=
  let least := if body.isWeightless then min least 1 else least
  let most := if body.isWeightless then some (min (most.getD 1) 1) else most
  if most = some 0 then .empty
  else if least = 1 ∧ most = some 1 then body
  else .repetition body least most isLazy

end Shape

mutual

def Pattern.shape : Pattern → Shape
  | .empty => .empty
  | .set r => Shape.ofRanges r
  | .look l => .look l
  | .seq first second => first.shape.append second.shape
  | .choice branches => Shape.ofBranches (Pattern.shapes branches)
  | .capture body => .capture body.shape
  | .repetition body least most isLazy => body.shape.repeated least most isLazy

def Pattern.shapes : List Pattern → List Shape
  | [] => []
  | p :: ps => p.shape :: Pattern.shapes ps

end

end Pipework.Regex
