import Pipework.Filter
import Pipework.Number

/-!
Steps: filters with ids, and where ids come from.
-/

set_option autoImplicit false
set_option relaxedAutoImplicit false

namespace Pipework

/-! ## Ids

A text names an id with or without hyphens, in braces, or behind `urn:uuid:` in either case. A
number names the id whose low half is the number's layout.
-/

structure StepId where
  high : UInt64
  low : UInt64
  deriving DecidableEq, Repr

namespace StepId

def ofNumber (x : Number.Binary64) : StepId := ⟨0, x.bits⟩

/-- The 32 digits with hyphens after the eighth, twelfth, sixteenth and twentieth. -/
def hyphenate (digits : Text) : Text :=
  digits.take 8 ++ '-' :: (digits.drop 8).take 4 ++ '-' :: (digits.drop 12).take 4 ++
    '-' :: (digits.drop 16).take 4 ++ '-' :: digits.drop 20

def toText (id : StepId) : Text :=
  hyphenate (Text.hexPadded 16 id.high.toNat ++ Text.hexPadded 16 id.low.toNat)

def ofDigits? (t : Text) : Option StepId := do
  let high ← Text.readHex 0 (t.take 16)
  let low ← Text.readHex 0 (t.drop 16)
  return ⟨high.toUInt64, low.toUInt64⟩

def ofHyphenated? (t : Text) : Option StepId :=
  let digits := t.filter (· != '-')
  if digits.length = 32 ∧ hyphenate digits = t then ofDigits? digits else none

def urnHead : Text := "urn:uuid:".toList

def ofText? (t : Text) : Option StepId :=
  if t.length = 32 then ofDigits? t
  else if t.length = 36 then ofHyphenated? t
  else if t.length = 38 then
    if t.head? = some '\x7b' ∧ t.getLast? = some '\x7d' then ofHyphenated? (t.drop 1).dropLast
    else none
  else if t.length = 45 then
    if (t.take 9).map Char.toLower = urnHead then ofHyphenated? (t.drop 9) else none
  else none

example : (ofText? "6F1c2e0a-5b7d-4c8e-9f3a-2d4b6c8e0a1f".toList).map toText =
    some "6f1c2e0a-5b7d-4c8e-9f3a-2d4b6c8e0a1f".toList := by decide +kernel

end StepId

/-! ## Steps

Steps: filters with an id. A draft is a step whose id may still be missing; the missing ids are
drawn from a supply, an endless sequence of ids.
-/

structure Step where
  id : StepId
  filter : Filter
  deriving DecidableEq, Repr

def Step.tool (s : Step) : Tool := s.filter.tool

/-- A step as it was read, perhaps without an id. -/
structure Draft where
  id : Option StepId
  filter : Filter
  deriving DecidableEq, Repr

/-- The ids to come, by number. -/
abbrev IdSupply := Nat → StepId

/-- Give drafts ids, the missing ones from the supply, `used` of which are used up; the count
used up in the end. -/
def Draft.settle (supply : IdSupply) : Nat → List Draft → List Step × Nat
  | used, [] => ([], used)
  | used, d :: rest =>
    match d.id with
    | some id =>
      let (steps, last) := settle supply used rest
      (⟨id, d.filter⟩ :: steps, last)
    | none =>
      let (steps, last) := settle supply (used + 1) rest
      (⟨supply used, d.filter⟩ :: steps, last)

/-! ## Fresh ids

Fresh ids: an endless sequence of scattered ids, computed from a seed.
-/

/-- Scatter the bits of a word; no two words become the same. -/
def scatter (x : UInt64) : UInt64 :=
  let y := (x ^^^ (x >>> 30)) * 0xBF58476D1CE4E5B9
  let z := (y ^^^ (y >>> 27)) * 0x94D049BB133111EB
  z ^^^ (z >>> 31)

/-- The id of two scattered words, marked as random: version four, variant ten. -/
def StepId.ofRandom (high low : UInt64) : StepId where
  high := (high &&& 0xFFFFFFFFFFFF0FFF) ||| 0x4000
  low := (low &&& 0x3FFFFFFFFFFFFFFF) ||| 0x8000000000000000

def IdSupply.ofSeed (high low : UInt64) : IdSupply := fun n =>
  .ofRandom (scatter (high + n.toUInt64 * 0x9E3779B97F4A7C15))
    (scatter (low + n.toUInt64 * 0x9E3779B97F4A7C15))

end Pipework
