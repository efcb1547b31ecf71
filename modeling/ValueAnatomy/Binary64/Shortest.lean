/-
**The fewest decimal digits that read back as the same number.**

A finite number is the nearest one to every real of an interval around it, its ends included
exactly if the significand is even. Of the decimal grids with 1, 2, .. 17 digits the first one with
a point in that interval gives the digits: if any point of a grid lies in the interval, then so does
one of the number's two neighbours on it. Of two such neighbours the nearer one is taken, and of two
equally near ones the upper.

* `Rounding`: a number and its interval as fractions with one denominator;
* `Rounding.onGrid?`: the number's choice among its neighbours on one grid;
* `shortest`: the digits and their power of ten.
-/

import ValueAnatomy.Binary64

namespace ValueAnatomy.Binary64

/-- A positive number and the interval of reals that round to it, over one denominator. -/
structure Rounding where
  /-- The lower end of the interval. -/
  low : Nat
  /-- The number itself. -/
  value : Nat
  /-- The upper end of the interval. -/
  high : Nat
  /-- The denominator of the three. -/
  denominator : Nat
  /-- Whether the ends round to the number too. -/
  closed : Bool

/-- The interval around a finite number. Its half width below is halved at a power of two, where the
numbers below lie closer. -/
def rounding (number : Binary64) : Rounding where
  low := (4 * number.significand -
    if number.fraction = 0 ∧ 1 < number.exponentField then 1 else 2) * twoTo number.scale
  value := 4 * number.significand * twoTo number.scale
  high := (4 * number.significand + 2) * twoTo number.scale
  denominator := twoTo 1076
  closed := number.significand % 2 == 0

namespace Rounding

/-- Whether a fraction over the same denominator rounds to the number. -/
def admits (around : Rounding) (numerator : Nat) : Bool :=
  if around.closed then around.low ≤ numerator && numerator ≤ around.high
  else around.low < numerator && numerator < around.high

/-- The number and its interval times a power of ten. -/
def scaled (around : Rounding) (factor : Nat) : Rounding :=
  { around with
    low := around.low * factor
    value := around.value * factor
    high := around.high * factor }

/-- The number's choice among its two neighbours on the grid of integers. -/
def onGrid? (around : Rounding) : Option Nat :=
  let below := around.value / around.denominator
  let above := below + 1
  let belowFits := around.admits (below * around.denominator)
  let aboveFits := around.admits (above * around.denominator)
  if aboveFits && (!belowFits ||
      above * around.denominator - around.value ≤ around.value - below * around.denominator)
  then some above
  else if belowFits then some below
  else none

/-- The first of the grids with `count`, `count + 1`, .. places that has a point in the interval,
as the point and its number of places. -/
def firstGrid (around : Rounding) : Nat → Nat → Nat × Nat
  | 0, count => (around.value * tenTo count / around.denominator, count)
  | fuel + 1, count =>
    match (around.scaled (tenTo count)).onGrid? with
    | some point => (point, count)
    | none => firstGrid around fuel (count + 1)

end Rounding

/-- A decimal number: `digits` times a power of ten. -/
structure Decimal where
  /-- The digits, as a number. -/
  digits : Nat
  /-- The power of ten by which they count. -/
  exponent : Int
  deriving DecidableEq, Repr

/-- Moves zeros at the end of the digits into the exponent. -/
def Decimal.trimmed (fuel : Nat) (decimal : Decimal) : Decimal :=
  match fuel with
  | 0 => decimal
  | fuel + 1 =>
    if decimal.digits % 10 = 0 then trimmed fuel ⟨decimal.digits / 10, decimal.exponent + 1⟩
    else decimal

/-- The least number of tenfold steps, at most `fuel`, that lift the numerator to the tenth part of
the denominator. -/
def tenfoldSteps (denominator : Nat) : Nat → Nat → Nat
  | 0, _ => 0
  | fuel + 1, numerator =>
    if denominator ≤ 10 * numerator then 0
    else tenfoldSteps denominator fuel (10 * numerator) + 1

/-- The number of digits before the decimal point of a positive finite number; zeros behind the
point count below zero. -/
def leadingPlace (number : Binary64) : Int :=
  let around := number.rounding
  let whole := around.value / around.denominator
  if whole = 0 then -(tenfoldSteps around.denominator 400 around.value : Int)
  else ((Nat.toDigits 10 whole).length : Int)

/-- The fewest digits that read back as the magnitude of a finite number other than zero. -/
def shortest (number : Binary64) : Decimal :=
  let place := number.leadingPlace
  let around := number.rounding
  let fractional :=
    if 0 ≤ place then { around with denominator := around.denominator * tenTo place.toNat }
    else around.scaled (tenTo (-place).toNat)
  let (point, count) := fractional.firstGrid 17 1
  Decimal.trimmed 17 ⟨point, place - count⟩

end ValueAnatomy.Binary64
