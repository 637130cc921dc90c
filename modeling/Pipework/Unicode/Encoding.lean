import Pipework.Unicode.Ranges

/-!
The encoding of code points in one to four bytes, and sets of code points as trees of bytes.
-/

set_option autoImplicit false
set_option relaxedAutoImplicit false

namespace Pipework.Unicode

/-! ## Sequences

The byte sequences of code points in the encoding of one to four bytes, a range of code points at
a time: `byteRanges` cuts a range into pieces whose encodings are all sequences with each byte
taken from a range of its own.
-/

def bytesOf (n : Nat) : List Nat :=
  if n < 0x80 then [n]
  else if n < 0x800 then [0xC0 + n / 64, 0x80 + n % 64]
  else if n < 0x10000 then [0xE0 + n / 4096, 0x80 + n / 64 % 64, 0x80 + n % 64]
  else [0xF0 + n / 262144, 0x80 + n / 4096 % 64, 0x80 + n / 64 % 64, 0x80 + n % 64]

/-- Where a range must be cut so that all its code points have encodings of one length, and
bytes behind the first place of difference take all their values; the cut is the last code point
of the first piece. -/
def cutPoint (low high : Nat) : Option Nat :=
  let lengths := [0x7F, 0x7FF, 0xFFFF].find? fun last => low ≤ last && last < high
  match lengths with
  | some last => some last
  | none =>
    if high < 0x80 then none
    else
      [64, 4096, 262144].findSome? fun size =>
        if low / size = high / size then none
        else if low % size ≠ 0 then some (low / size * size + size - 1)
        else if high % size ≠ size - 1 then some (high / size * size - 1)
        else none

/-- The pieces of a range, each as the ranges of its bytes. -/
def byteRangesFrom : Nat → Nat → Nat → List (List (Nat × Nat))
  | 0, _, _ => []
  | fuel + 1, low, high =>
    if high < low then []
    else match cutPoint low high with
      | some last => byteRangesFrom fuel low last ++ byteRangesFrom fuel (last + 1) high
      | none => [(bytesOf low).zip (bytesOf high)]

/-- The pieces of a range without its surrogates. -/
def byteRanges (r : Nat × Nat) : List (List (Nat × Nat)) :=
  byteRangesFrom 64 r.1 (min r.2 0xD7FF) ++ byteRangesFrom 64 (max r.1 0xE000) r.2

def Ranges.byteRanges (r : Ranges) : List (List (Nat × Nat)) := r.flatMap Unicode.byteRanges

/-! ## Trees

Sequences with a common start share the nodes of that start. A node is written as the newest of
its edges, what hangs below that edge, and the older edges; a leaf has none.
-/

/-- A node of the tree; an edge stands for a range of bytes. -/
inductive ByteTree
  | leaf
  | edge (bytes : Nat × Nat) (below older : ByteTree)
  deriving DecidableEq

namespace ByteTree

def path : List (Nat × Nat) → ByteTree
  | [] => .leaf
  | b :: bs => .edge b (path bs) .leaf

/-- Add a sequence that is greater than all others of the tree. -/
def add : List (Nat × Nat) → ByteTree → ByteTree
  | [], t => t
  | b :: bs, .leaf => path (b :: bs)
  | b :: bs, .edge c below older =>
    if b = c then .edge c (add bs below) older else .edge b (path bs) (.edge c below older)

def degree : ByteTree → Nat
  | .leaf => 0
  | .edge _ _ older => older.degree + 1

def edgeCount : ByteTree → Nat
  | .leaf => 0
  | .edge _ below older => below.edgeCount + older.edgeCount + 1

def sequenceCount : ByteTree → Nat
  | .leaf => 0
  | .edge _ .leaf older => older.sequenceCount + 1
  | .edge _ below older => below.sequenceCount + older.sequenceCount

def inner : ByteTree → List ByteTree
  | .leaf => []
  | .edge _ .leaf older => older.inner
  | .edge _ below older => below :: (below.inner ++ older.inner)

def distinctNodes (t : ByteTree) : List ByteTree := (t :: t.inner).eraseDups

end ByteTree

def Ranges.byteTree (r : Ranges) : ByteTree :=
  r.byteRanges.foldl (fun t s => ByteTree.add s t) .leaf

end Pipework.Unicode
