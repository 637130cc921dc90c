import Pipework.Regex.Pattern
import Pipework.Unicode.Encoding

/-!
The size of the automata of a pattern, with the tree of its literals.
-/

set_option autoImplicit false
set_option relaxedAutoImplicit false

namespace Pipework.Regex

/-! ## Literals

Literals with a common start share it as far as no literal has ended in between: the end of a
literal is a stop, and edges behind a stop are not shared with edges in front of it. A node is
written from its newest edge or stop to its oldest.
-/

/-- A node of the tree; an edge stands for one byte. -/
inductive Trie
  | root
  | edge (byte : Nat) (below older : Trie)
  | stop (older : Trie)
  deriving DecidableEq

namespace Trie

def path : List Nat → Trie
  | [] => .stop .root
  | b :: bs => .edge b (path bs) .root

def hasEdges : Trie → Bool
  | .root => false
  | .edge _ _ _ => true
  | .stop older => older.hasEdges

/-- Whether an edge that is newer than the last stop stands for a byte. -/
def offers (byte : Nat) : Trie → Bool
  | .edge b _ older => b == byte || older.offers byte
  | _ => false

/-- Add a literal. A stop at a node without edges is not repeated. -/
def add : Trie → List Nat → Trie
  | .root, bytes => path bytes
  | .stop older, [] => if older.hasEdges then .stop (.stop older) else .stop older
  | .stop older, b :: bs => .edge b (path bs) (.stop older)
  | .edge c below older, [] => .stop (.edge c below older)
  | .edge c below older, b :: bs =>
    if b = c then .edge c (below.add bs) older
    else if older.offers b then .edge c below (older.add (b :: bs))
    else .edge b (path bs) (.edge c below older)

def ofLiterals (literals : List (List Nat)) : Trie := literals.foldl add .root

end Trie

/-! ## Automata

A pattern has two automata over bytes, one that reads forward and also keeps where captures begin
and end, and one that reads backward. In both, counted repetitions are written out. An automaton
is put together from blocks with one first and one last state; where a last state has several
ways on, a block behind it takes one more.
-/

open Unicode (Ranges ByteTree)

def stateSize : Nat := 32

/-- The bytes of a way on for a range of bytes, at a state that has several. -/
def edgeSize : Nat := 8

/-- The bytes of a way on without a byte, at a state that has several. -/
def linkSize : Nat := 4

inductive Direction
  | forward
  | backward
  deriving DecidableEq, Repr

def Direction.order {α : Type} (d : Direction) (xs : List α) : List α :=
  match d with
  | .forward => xs
  | .backward => xs.reverse

structure Block where
  bytes : Nat
  /-- Whether the last state has several ways on, so that a further one takes a link. -/
  isForked : Bool
  deriving DecidableEq, Repr

namespace Block

/-- The bytes that it takes to go on behind a block. -/
def exit (b : Block) : Nat := if b.isForked then linkSize else 0

def append (a b : Block) : Block := ⟨a.bytes + a.exit + b.bytes, b.isForked⟩

def state : Block := ⟨stateSize, false⟩

def chain : List Block → Block
  | [] => state
  | [b] => b
  | b :: bs => b.append (chain bs)

def copies (b : Block) : Nat → Block
  | 0 => state
  | n + 1 => ⟨n * (b.bytes + b.exit) + b.bytes, b.isForked⟩

/-- One of several blocks, between a state in front of all and a state behind all. -/
def choice (bs : List Block) : Block :=
  ⟨bs.foldl (fun n b => n + linkSize + b.bytes + b.exit) (2 * stateSize), false⟩

def enclosed (b : Block) : Block := ⟨2 * stateSize + b.bytes + b.exit, false⟩

def optional (b : Block) : Block := choice [b, ⟨0, false⟩]

/-- A block any number of times. One that always consumes is a loop through one state; otherwise
the loop has a state behind it and can be left out as a whole. -/
def star (b : Block) (consumes : Bool) : Block :=
  if consumes then ⟨stateSize + linkSize + b.bytes + b.exit, true⟩
  else optional ⟨b.bytes + b.exit + stateSize + linkSize, true⟩

def repeated (b : Block) (consumes : Bool) (least : Nat) : Option Nat → Block
  | none =>
    if least = 0 then b.star consumes
    else (b.copies least).append ⟨stateSize + linkSize, true⟩
  | some most =>
    if least = most then b.copies least
    else if most = 1 then b.optional
    else
      let further := stateSize + 2 * linkSize + b.bytes + b.exit
      ((b.copies least).append state).append ⟨(most - least) * further, false⟩

end Block

/-- The bytes of a set. Within ASCII it is one state with a way on for each range, otherwise the
tree of its byte sequences; read forward, nodes of one form are one state. -/
def setSize (d : Direction) (r : Ranges) : Nat :=
  if r.isAscii then 2 * stateSize + edgeSize * r.length
  else
    let tree := r.byteTree
    match d with
    | .forward =>
      let nodes := tree.distinctNodes
      stateSize + nodes.foldl (fun n t => n + stateSize + edgeSize * t.degree) 0
    | .backward => stateSize * (tree.edgeCount + 2) + linkSize * tree.sequenceCount

/-- The bytes of the state for the edges between two stops, and of the link to it. -/
def groupSize (edges : Nat) : Nat :=
  if edges = 0 then 0
  else if edges = 1 then linkSize + stateSize
  else linkSize + stateSize + edgeSize * edges

/-- The bytes of a node and of all below, but for the state of the node itself; `edges` counts
those since the last stop. -/
def Trie.sizeFrom : Trie → Nat → Nat
  | .root, edges => groupSize edges
  | .stop older, edges => groupSize edges + linkSize + older.sizeFrom 0
  | .edge _ below older, edges =>
    (if below.hasEdges then stateSize + below.sizeFrom 0 else 0) + older.sizeFrom (edges + 1)

def Shape.literal? : Shape → Option (List Nat)
  | .literal codes => some codes
  | _ => none

def literalsBlock (d : Direction) (literals : List (List Nat)) : Block :=
  let trie := Trie.ofLiterals (literals.map fun codes => d.order (codes.flatMap Unicode.bytesOf))
  ⟨2 * stateSize + trie.sizeFrom 0, false⟩

mutual

def Shape.block (d : Direction) : Shape → Block
  | .empty => .state
  | .literal codes => ⟨stateSize * (codes.flatMap Unicode.bytesOf).length, false⟩
  | .set r => ⟨setSize d r, false⟩
  | .look _ => .state
  | .repetition body least most _ =>
    (body.block d).repeated (body.minLength.any (0 < ·)) least most
  | .capture body =>
    match d with
    | .forward => (body.block d).enclosed
    | .backward => body.block d
  | .sequence items => .chain (d.order (Shape.blocks d items))
  | .choice branches =>
    match branches.mapM Shape.literal? with
    | some literals => literalsBlock d literals
    | none => .choice (Shape.blocks d branches)

def Shape.blocks (d : Direction) : List Shape → List Block
  | [] => []
  | s :: rest => s.block d :: Shape.blocks d rest

end

/-- Whether the first value of some pair holds, up to the first pair whose second does not. -/
def anyLeading : List (Bool × Bool) → Bool
  | [] => false
  | (found, goesOn) :: rest => found || (goesOn && anyLeading rest)

mutual

/-- Whether every match that is read in a direction begins at a place where a condition holds. -/
def Shape.beginsAt (d : Direction) (l : Look) : Shape → Bool
  | .look k => k == l
  | .repetition body least _ _ => 0 < least && body.beginsAt d l
  | .capture body => body.beginsAt d l
  | .sequence items =>
    anyLeading (d.order ((Shape.beginnings d l items).zip (items.map Shape.isWeightless)))
  | .choice branches => (Shape.beginnings d l branches).all id
  | _ => false

def Shape.beginnings (d : Direction) (l : Look) : List Shape → List Bool
  | [] => []
  | s :: rest => s.beginsAt d l :: Shape.beginnings d l rest

end

/-- The place at which an automaton may have to begin: the one where reading starts. -/
def Direction.firstPlace : Direction → Look
  | .forward => .textStart
  | .backward => .textEnd

/-- The bytes of the states in front of a block, which pass over what is in front of a match
unless matches are bound to the first place. -/
def leadSize (d : Direction) (s : Shape) : Nat :=
  if s.beginsAt d d.firstPlace then stateSize else 3 * stateSize + 2 * linkSize + edgeSize

/-- The bytes of an automaton. Read forward, the whole match is kept like a capture. -/
def Shape.size (d : Direction) (s : Shape) : Nat :=
  let body := match d with
    | .forward => (s.block d).enclosed
    | .backward => s.block d
  leadSize d s + (body.append .state).bytes

def Pattern.size (p : Pattern) : Nat :=
  let s := p.shape
  max (s.size .forward) (s.size .backward)

end Pipework.Regex
