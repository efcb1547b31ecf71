/-
**The text of a floating-point number.**

A number is written with the fewest digits that read back, at least one of them behind the point;
from a certain size on, and below another, one digit stands before the point and a power of ten
follows. `Form` says where the two ways of writing part.
-/

import ValueAnatomy.Binary64.Shortest

namespace ValueAnatomy.Binary64

/-- Which decimal numbers are written without an exponent: those whose point stands behind at
least `leastPlace` and at most `greatestPlace` digits, zeros behind the point counting below
zero. -/
structure Form where
  /-- The least position of the point. -/
  leastPlace : Int
  /-- The greatest position of the point. -/
  greatestPlace : Int
  deriving DecidableEq, Repr

/-- Numbers from a ten-thousandth up to, and without, ten to the sixteenth need no exponent. -/
def plainForm : Form := ⟨-3, 16⟩

/-- Digits with a point behind the first `place` of them, and at least one digit on each side. -/
def positional (digits : List Char) (place : Int) : List Char :=
  let missing := (place - digits.length).toNat
  let whole := if 0 < place then digits.take place.toNat ++ List.replicate missing '0' else ['0']
  let behind :=
    if 0 < place then digits.drop place.toNat
    else List.replicate (-place).toNat '0' ++ digits
  whole ++ '.' :: (if behind.isEmpty then ['0'] else behind)

/-- Digits with a point behind the first, where more follow, and the power of ten. -/
def exponential (digits : List Char) (place : Int) : List Char :=
  let power := ("e" ++ toString (place - 1)).toList
  match digits with
  | [] => power
  | [digit] => digit :: power
  | digit :: rest => digit :: '.' :: rest ++ power

/-- A decimal number in the given form. -/
def Form.write (form : Form) (decimal : Decimal) : List Char :=
  let digits := Nat.toDigits 10 decimal.digits
  let place := digits.length + decimal.exponent
  if form.leastPlace ≤ place ∧ place ≤ form.greatestPlace then positional digits place
  else exponential digits place

/-- The text of a number. -/
def text (number : Binary64) : String :=
  if number.isNaN then "NaN"
  else
    let sign := if number.isNegative then "-" else ""
    if number.isInfinite then sign ++ "inf"
    else if number.isZero then sign ++ "0.0"
    else sign ++ String.ofList (plainForm.write number.shortest)

end ValueAnatomy.Binary64
