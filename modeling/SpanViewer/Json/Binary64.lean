import SpanViewer.Text.Number

/-!
# Binary floating-point numbers

Numbers with a significand of 53 bits, as `significand * 2 ^ exponent`. A quotient of natural
numbers is rounded to the nearest of them, and to an even significand where two are equally near. A
number is written with the fewest digits that are read back as the same number.
-/

namespace SpanViewer

/-- A floating-point number of 64 bits that is not infinite. -/
structure Binary64 where
  /-- The number is written with a minus sign. -/
  negative : Bool
  /-- The significand, below `2 ^ 53`. -/
  significand : Nat
  /-- The power of two, at least `-1074`; only at the least power is the significand below
  `2 ^ 52`. -/
  exponent : Int
  deriving DecidableEq, Repr

namespace Binary64

/-- Significands are below this bound, the number of values of 53 bits. -/
def significandBound : Nat := 9007199254740992

/-- The quotient rounded to the nearest number, and to the even one if two are equally near. -/
def roundQuotient (numerator denominator : Nat) : Nat :=
  let quotient := numerator / denominator
  let twice := 2 * (numerator % denominator)
  if twice < denominator ∨ twice = denominator ∧ quotient % 2 = 0 then quotient else quotient + 1

/-- The quotient of `numerator` and `denominator * 2 ^ power`, as a quotient again. -/
def shift (numerator denominator : Nat) (power : Int) : Nat × Nat :=
  (numerator <<< (-power).toNat, denominator <<< power.toNat)

/-- The number nearest to a quotient that is not negative; nothing if it is too large. -/
def ofQuotient? (numerator denominator : Nat) : Option Binary64 :=
  let estimate := max (-1074) (Nat.log2 numerator - Nat.log2 denominator - 53 : Int)
  let (n, d) := shift numerator denominator estimate
  let exponent := if n / d < significandBound then estimate else estimate + 1
  let (n, d) := shift numerator denominator exponent
  let significand := roundQuotient n d
  let (significand, exponent) :=
    if significand < significandBound then (significand, exponent)
    else (significandBound / 2, exponent + 1)
  if exponent ≤ 971 then some ⟨false, significand, exponent⟩ else none

/-- The absolute value as a quotient. -/
def toQuotient (x : Binary64) : Nat × Nat :=
  (x.significand <<< x.exponent.toNat, 1 <<< (-x.exponent).toNat)

/-- The absolute value of a product; nothing if it is too large. -/
def mul? (x y : Binary64) : Option Binary64 :=
  let (n, d) := x.toQuotient
  let (m, e) := y.toQuotient
  ofQuotient? (n * m) (d * e)

/-- The absolute value of a quotient of numbers; nothing if it is too large. -/
def div? (x y : Binary64) : Option Binary64 :=
  let (n, d) := x.toQuotient
  let (m, e) := y.toQuotient
  ofQuotient? (n * e) (d * m)

/-- The largest power of ten that one step multiplies or divides by. -/
def largestPower : Nat := 308

/-- The number times a power of ten that is rounded first. -/
def scaleUp? (x : Binary64) (power : Nat) : Option Binary64 :=
  if power ≤ largestPower then do
    x.mul? (← ofQuotient? (Nat.pow 10 power) 1)
  else if x.significand = 0 then
    some x
  else
    none

/-- The number divided by a power of ten, in steps of the largest power. -/
def scaleDown? (x : Binary64) (power : Nat) : Option Binary64 :=
  if power ≤ largestPower then do
    x.div? (← ofQuotient? (Nat.pow 10 power) 1)
  else if x.significand = 0 then
    some x
  else do
    scaleDown? (← x.div? (← ofQuotient? (Nat.pow 10 largestPower) 1)) (power - largestPower)
termination_by power
decreasing_by all_goals simp only [largestPower] at *; omega

/-- The number `significand * 10 ^ power`, rounded in steps; nothing if it is too large. -/
def ofDecimal? (negative : Bool) (significand : Nat) (power : Int) : Option Binary64 := do
  let x ← ofQuotient? significand 1
  let y ← if 0 ≤ power then x.scaleUp? power.toNat else x.scaleDown? (-power).toNat
  return { y with negative := negative }

/-- The places of the first digits of a number on the grid of the multiples of a power of ten. -/
structure Grid where
  /-- The length of a step of the grid. -/
  step : Nat
  /-- The least point that is read back as the number. -/
  low : Nat
  /-- The number. -/
  middle : Nat
  /-- The greatest point that is read back as the number. -/
  high : Nat

/-- The number and the ends of the interval that rounds to it, measured in common units with the
step `10 ^ power`. -/
def grid (x : Binary64) (power : Int) : Grid :=
  let quarter := x.exponent - 2
  let unit := Nat.pow 10 (-power).toNat <<< quarter.toNat
  let below := if x.significand = significandBound / 2 ∧ -1074 < x.exponent then 1 else 2
  { step := Nat.pow 10 power.toNat <<< (-quarter).toNat
    low := (4 * x.significand - below) * unit
    middle := 4 * x.significand * unit
    high := (4 * x.significand + 2) * unit }

/-- The point of a grid that is read back as the number, the nearer if there are two. -/
def Grid.hit? (g : Grid) (closed : Bool) : Option Nat :=
  let lower := g.middle / g.step
  let upper := lower + 1
  let inside (n : Nat) : Bool :=
    if closed then g.low ≤ n * g.step && n * g.step ≤ g.high
    else g.low < n * g.step && n * g.step < g.high
  let down := g.middle - lower * g.step
  let up := upper * g.step - g.middle
  match inside lower, inside upper with
  | true, true => some (if down < up ∨ down = up ∧ lower % 2 = 0 then lower else upper)
  | true, false => some lower
  | false, true => some upper
  | false, false => none

/-- The power of ten of the first digit of a number that is not zero. -/
def leadingPower (x : Binary64) : Int :=
  let (n, d) := x.toQuotient
  (Nat.toDigits 10 (n * Nat.pow 10 330 / d)).length - 331

/-- The fewest digits that are read back as the number, and the power of ten of the last. -/
def shortest (x : Binary64) : Nat × Int :=
  let found := (List.range 17).findSome? fun (places : Nat) =>
    let power := x.leadingPower - places
    ((x.grid power).hit? (x.significand % 2 = 0)).map fun digits => (digits, power)
  found.getD (0, 0)

/-- Digits without zeros at their end, and the power of ten of the last. -/
def dropZeros (digits : Text) (power : Int) : Text × Int :=
  let kept := digits.dropEndWhile (· = '0')
  (kept, power + (digits.length - kept.length))

/-- The written form of `digits * 10 ^ power`: with a point among the digits if it stands at most
16 digits behind the first or 4 zeros before it, and with a signed exponent otherwise. -/
def renderDigits (digits : Text) (power : Int) : Text :=
  let point : Int := digits.length + power
  if 0 ≤ power ∧ point ≤ 16 then
    digits ++ List.replicate power.toNat '0' ++ ".0".toList
  else if 0 < point ∧ point ≤ 16 then
    digits.take point.toNat ++ ['.'] ++ digits.drop point.toNat
  else if -5 < point ∧ point ≤ 0 then
    "0.".toList ++ List.replicate (-point).toNat '0' ++ digits
  else
    let exponent := point - 1
    let fraction := if digits.length = 1 then [] else '.' :: digits.drop 1
    let sign := if exponent < 0 then '-' else '+'
    digits.take 1 ++ fraction ++ ['e', sign] ++ .ofNumber exponent.natAbs

/-- The written form of a number. -/
def render (x : Binary64) : Text :=
  let sign := if x.negative then ['-'] else []
  if x.significand = 0 then
    sign ++ "0.0".toList
  else
    let (digits, power) := x.shortest
    let (digits, power) := dropZeros (.ofNumber digits) power
    sign ++ renderDigits digits power

end Binary64

end SpanViewer
