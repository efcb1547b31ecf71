/-
**Floating-point numbers of sixty-four bits.**

A number is kept as its bit pattern, so that every question about it is answered by integer
arithmetic: the sign bit, eleven exponent bits and fifty-two fraction bits. A finite number has the
magnitude `significand * 2 ^ scale / 2 ^ 1074`.

* `sameValue`: equality as numbers, under which a not-a-number differs from itself and the two
  zeros are equal;
* `ofRatio`: the number nearest to a fraction, an exact half going to the even neighbour;
* `sameValue_self_iff`: exactly the numbers that are not not-a-number equal themselves.
-/

namespace ValueAnatomy

def twoTo (exponent : Nat) : Nat := Nat.pow 2 exponent

def tenTo (exponent : Nat) : Nat := Nat.pow 10 exponent

/-- A floating-point number of sixty-four bits, by its bit pattern. -/
structure Binary64 where
  /-- The bit pattern: sign, exponent, fraction. -/
  bits : UInt64
  deriving DecidableEq, Repr

namespace Binary64

def isNegative (number : Binary64) : Bool :=
  twoTo 63 ≤ number.bits.toNat

/-- The bits below the sign. -/
def magnitudeBits (number : Binary64) : Nat :=
  number.bits.toNat % twoTo 63

def exponentField (number : Binary64) : Nat :=
  number.magnitudeBits / twoTo 52

def fraction (number : Binary64) : Nat :=
  number.magnitudeBits % twoTo 52

/-- The magnitude bits of infinity: the exponent field all ones, the fraction empty. -/
def infinityBits : Nat := 0x7FF * twoTo 52

/-- Whether the pattern stands for no number at all. -/
def isNaN (number : Binary64) : Bool :=
  infinityBits < number.magnitudeBits

def isInfinite (number : Binary64) : Bool :=
  number.magnitudeBits == infinityBits

def isZero (number : Binary64) : Bool :=
  number.magnitudeBits == 0

/-- The integer significand of a finite number; below the normal range there is no hidden bit. -/
def significand (number : Binary64) : Nat :=
  if number.exponentField = 0 then number.fraction else twoTo 52 + number.fraction

/-- The power of two above the smallest one, `2 ^ -1074`, by which the significand counts. -/
def scale (number : Binary64) : Nat :=
  number.exponentField - 1

/-- Equality as numbers. -/
def sameValue (first second : Binary64) : Bool :=
  !first.isNaN && !second.isNaN &&
    (first.bits == second.bits || (first.isZero && second.isZero))

theorem sameValue_self_iff (number : Binary64) :
    number.sameValue number = true ↔ number.isNaN = false := by
  simp [sameValue]

theorem sameValue_comm (first second : Binary64) :
    first.sameValue second = second.sameValue first := by
  simp only [sameValue, Bool.beq_comm (a := first.bits),
    Bool.and_comm (x := first.isZero), Bool.and_comm (x := !first.isNaN)]

def ofMagnitudeBits (negative : Bool) (magnitude : Nat) : Binary64 :=
  ⟨UInt64.ofNat (if negative then twoTo 63 + magnitude else magnitude)⟩

/-- A quotient rounded to the nearest integer, an exact half going to the even neighbour. -/
def roundedQuotient (numerator denominator : Nat) : Nat :=
  let quotient := numerator / denominator
  let double := 2 * (numerator % denominator)
  if double < denominator then quotient
  else if denominator < double then quotient + 1
  else quotient + quotient % 2

/-- The magnitude bits of the number nearest to a positive fraction. The scale is the one at which
the significand fills fifty-three bits, or the smallest there is; a significand rounded up to the
next power of two carries into the exponent field, which is the next number's pattern. -/
def nearestMagnitudeBits (numerator denominator : Nat) : Nat :=
  let width : Int := (numerator.log2 : Int) - denominator.log2
  -- The fraction lies between `2 ^ (width - 1)` and `2 ^ (width + 1)`.
  let power : Int :=
    if 0 ≤ width then
      if denominator * twoTo width.toNat ≤ numerator then width else width - 1
    else
      if denominator ≤ numerator * twoTo (-width).toNat then width else width - 1
  let scale : Nat := (power + 1022).toNat
  let significand :=
    if 1074 ≤ scale then roundedQuotient numerator (denominator * twoTo (scale - 1074))
    else roundedQuotient (numerator * twoTo (1074 - scale)) denominator
  min (scale * twoTo 52 + significand) infinityBits

/-- The number nearest to a fraction of the given sign, an exact half going to the even neighbour
and everything beyond the range to infinity. -/
def ofRatio (negative : Bool) (numerator denominator : Nat) : Binary64 :=
  ofMagnitudeBits negative (if numerator = 0 then 0 else nearestMagnitudeBits numerator denominator)

end Binary64

end ValueAnatomy
