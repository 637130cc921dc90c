import Pipework.Text

/-!
Floating numbers of 64 bits, computed with exact natural numbers, and the shortest texts that read
back as them.
-/

set_option autoImplicit false
set_option relaxedAutoImplicit false

namespace Pipework.Number

/-! ## Rounding

A finite number is `m * 2 ^ q` with `m < 2 ^ 53`. `nearest` rounds a quotient to such a pair,
halves to the even significand, and every operation here is one exact computation followed by
one rounding.
-/

/-- A floating number in the interchange layout: sign, eleven bits of exponent, fraction. -/
structure Binary64 where
  /-- The 64 bits of the number. -/
  bits : UInt64
  deriving DecidableEq, Repr

/-- The magnitude `significand * 2 ^ exponent`. -/
structure Magnitude where
  /-- Below `2 ^ 53` for the magnitude of a floating number. -/
  significand : Nat
  /-- At least `-1074` for the magnitude of a floating number. -/
  exponent : Int
  deriving DecidableEq, Repr

namespace Magnitude

def zero : Magnitude := ⟨0, -1074⟩

def ratio (x : Magnitude) : Nat × Nat :=
  (x.significand * Nat.pow 2 x.exponent.toNat, Nat.pow 2 (-x.exponent).toNat)

def scaled (num den : Nat) (q : Int) : Nat × Nat :=
  (num * Nat.pow 2 (-q).toNat, den * Nat.pow 2 q.toNat)

/-- The whole number nearest to a quotient; a half goes to the even neighbour. -/
def roundHalfEven (num den : Nat) : Nat :=
  let below := num / den
  let twice := 2 * (num % den)
  if twice < den then below
  else if den < twice then below + 1
  else below + below % 2

/-- The exponent at which a quotient has 53 bits in front of the point, never below `-1074`. -/
def gridExponent (num den : Nat) : Int :=
  let q := max ((num.log2 : Int) - (den.log2 : Int) - 53) (-1074)
  let s := scaled num den q
  if s.1 / s.2 < Nat.pow 2 53 then q else q + 1

/-- The floating magnitude nearest to a quotient, or `none` beyond the largest one. -/
def nearest (num den : Nat) : Option Magnitude :=
  if num = 0 then some zero
  else
    let q := gridExponent num den
    let s := scaled num den q
    let m := roundHalfEven s.1 s.2
    let x : Magnitude := if m = Nat.pow 2 53 then ⟨Nat.pow 2 52, q + 1⟩ else ⟨m, q⟩
    if 971 < x.exponent then none else some x

def mul (x y : Magnitude) : Option Magnitude :=
  nearest (x.ratio.1 * y.ratio.1) (x.ratio.2 * y.ratio.2)

/-- The quotient of two magnitudes, rounded; the divisor is not zero. -/
def div (x y : Magnitude) : Option Magnitude :=
  nearest (x.ratio.1 * y.ratio.2) (x.ratio.2 * y.ratio.1)

/-- The layout without its sign bit. -/
def toBits (x : Magnitude) : Nat :=
  if x.significand < Nat.pow 2 52 then x.significand
  else ((x.exponent + 1075).toNat <<< 52) + (x.significand - Nat.pow 2 52)

end Magnitude

namespace Binary64

def ofMagnitude (negative : Bool) (x : Magnitude) : Binary64 :=
  ⟨(x.toBits + if negative then Nat.pow 2 63 else 0).toUInt64⟩

def isNegative (x : Binary64) : Bool := x.bits.toNat.testBit 63

def exponentField (x : Binary64) : Nat := (x.bits.toNat >>> 52) % 2048

def magnitude (x : Binary64) : Magnitude :=
  let fraction := x.bits.toNat % Nat.pow 2 52
  if x.exponentField = 0 then ⟨fraction, -1074⟩
  else ⟨fraction + Nat.pow 2 52, (x.exponentField : Int) - 1075⟩

/-- The number nearest to a whole number, which must not exceed the largest magnitude. -/
def ofNat (n : Nat) : Binary64 :=
  ofMagnitude false ((Magnitude.nearest n 1).getD Magnitude.zero)

def ofInt (i : Int) : Binary64 :=
  ofMagnitude (i < 0) ((Magnitude.nearest i.natAbs 1).getD Magnitude.zero)

/-- The number nearest to `digits * 10 ^ exponent`, or `none` beyond the largest one. Powers of
ten that decide alone are not computed. -/
def ofDecimal (negative : Bool) (digits : Nat) (exponent : Int) : Option Binary64 :=
  if digits = 0 ∨ exponent + digits.log2 < -400 then some (ofMagnitude negative .zero)
  else if 400 < exponent then none
  else (Magnitude.nearest (digits * Nat.pow 10 exponent.toNat) (Nat.pow 10 (-exponent).toNat)).map
    (ofMagnitude negative)

example : ofDecimal false 1 (-1) = some ⟨0x3FB999999999999A⟩ := by decide +kernel
example : ofDecimal true 0 0 = some ⟨0x8000000000000000⟩ := by decide +kernel
example : ofNat 9007199254740993 = ⟨0x4340000000000000⟩ := by decide +kernel
example : ofDecimal false 5 (-324) = some ⟨1⟩ := by decide +kernel
example : ofDecimal false 1 1000000000 = none := by decide +kernel

end Binary64

/-! ## Shortest texts

Among the decimals with the fewest digits inside the interval of reals that round to the
number, the nearest one is taken. `Layout` says how digits and exponent are laid out.
-/

structure Decimal where
  digits : Nat
  exponent : Int
  deriving DecidableEq, Repr

namespace Magnitude

/-- Compare `a * 10 ^ k` with `num / den`, all times a common factor. -/
def decimalSides (digits : Nat) (k : Int) (num den : Nat) : Nat × Nat :=
  (digits * Nat.pow 10 k.toNat * den, num * Nat.pow 10 (-k).toNat)

/-- Whether `digits * 10 ^ k` rounds to `x`: it lies between the midpoints to the neighbours,
which belong to `x` when its significand is even. -/
def accepts (x : Magnitude) (digits : Nat) (k : Int) : Bool :=
  let m := x.significand
  let narrow := m = Nat.pow 2 52 ∧ -1074 < x.exponent
  let unit : Magnitude := ⟨1, x.exponent - 2⟩
  let low := (4 * m - (if narrow then 1 else 2)) * unit.ratio.1
  let high := (4 * m + 2) * unit.ratio.1
  let below := decimalSides digits k low unit.ratio.2
  let above := decimalSides digits k high unit.ratio.2
  if m % 2 = 0 then below.2 ≤ below.1 && above.1 ≤ above.2
  else below.2 < below.1 && above.1 < above.2

/-- How far `digits * 10 ^ k` is from `x`, times a factor that depends on `k` alone. -/
def distance (x : Magnitude) (digits : Nat) (k : Int) : Nat :=
  let s := decimalSides digits k x.ratio.1 x.ratio.2
  (s.1 - s.2) + (s.2 - s.1)

/-- The better of the two neighbours of `x` among the multiples of `10 ^ k`, if one rounds
to `x`. -/
def onGrid (x : Magnitude) (k : Int) : Option Decimal :=
  let s := decimalSides 1 k x.ratio.1 x.ratio.2
  let lower := s.2 / s.1
  match x.accepts lower k, x.accepts (lower + 1) k with
  | true, true =>
    let a := x.distance lower k
    let b := x.distance (lower + 1) k
    some (if a < b || (a == b && lower % 2 == 0) then ⟨lower, k⟩ else ⟨lower + 1, k⟩)
  | true, false => some ⟨lower, k⟩
  | false, true => some ⟨lower + 1, k⟩
  | false, false => none

def searchGrids (x : Magnitude) : Nat → Int → Decimal
  | 0, k => ⟨x.significand, k⟩
  | tries + 1, k => (x.onGrid k).getD (searchGrids x tries (k - 1))

def dropZeros : Nat → Decimal → Decimal
  | 0, d => d
  | fuel + 1, d =>
    if d.digits % 10 = 0 ∧ d.digits ≠ 0 then dropZeros fuel ⟨d.digits / 10, d.exponent + 1⟩
    else d

def shortest (x : Magnitude) : Decimal :=
  let top : Int := (x.significand.log2 : Int) + x.exponent
  let start := top * 30103 / 100000 + 2
  dropZeros 20 (searchGrids x 22 start)

end Magnitude

/-- Where positional notation ends and how an exponent is written. -/
structure Layout where
  /-- The smallest exponent of ten of the leading digit that is written positionally. -/
  least : Int
  /-- The largest such exponent. -/
  greatest : Int

/-- Positional from `0.00001` up to sixteen digits before the point; elsewhere an exponent with
its sign. -/
def plainLayout : Layout := ⟨-5, 15⟩

/-- The text of a decimal, always with a point when it is written positionally. -/
def Layout.write (layout : Layout) (d : Decimal) : Text :=
  let digits := Text.ofNat d.digits
  let lead : Int := d.exponent + digits.length - 1
  if layout.least ≤ lead ∧ lead ≤ layout.greatest then
    if 0 ≤ d.exponent then digits ++ List.replicate d.exponent.toNat '0' ++ ['.', '0']
    else if 0 ≤ lead then
      digits.take (lead.toNat + 1) ++ '.' :: digits.drop (lead.toNat + 1)
    else ['0', '.'] ++ List.replicate (-lead - 1).toNat '0' ++ digits
  else
    let sign := if lead < 0 then '-' else '+'
    let fraction := if digits.length ≤ 1 then [] else '.' :: digits.drop 1
    digits.take 1 ++ fraction ++ 'e' :: sign :: Text.ofNat lead.natAbs

def Binary64.toText (x : Binary64) : Text :=
  let sign := if x.isNegative then ['-'] else []
  let m := x.magnitude
  if m.significand = 0 then sign ++ ['0', '.', '0']
  else sign ++ plainLayout.write m.shortest

end Pipework.Number
