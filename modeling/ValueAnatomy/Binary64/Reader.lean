/-
**Reading a floating-point number.**

A numeral is an optional sign and either digits with at most one point among them, at least one
digit in all, and an optional exponent, or one of the words `inf`, `infinity` and `nan` in any
case. It stands for the number nearest to its exact value.

* `splitDigits`: the digits a text begins with and the rest;
* `readMagnitude?`: an unsigned numeral as digits and a power of ten;
* `read?`: the whole.
-/

import ValueAnatomy.Binary64.Shortest

namespace ValueAnatomy.Binary64

/-- The value of a digit string in base ten, after what came before. -/
def digitsValue (before : Nat) (digits : List Char) : Nat :=
  digits.foldl (fun value digit => 10 * value + (digit.toNat - 0x30)) before

/-- The digits that a text begins with, and the rest of it. -/
def splitDigits (text : List Char) : List Char × List Char :=
  (text.takeWhile Char.isDigit, text.dropWhile Char.isDigit)

/-- The sign that a text may begin with, and the rest of it. -/
def splitSign : List Char → Bool × List Char
  | '+' :: rest => (false, rest)
  | '-' :: rest => (true, rest)
  | text => (false, text)

/-- An exponent: nothing, or the letter e, an optional sign and digits, and then nothing more. -/
def readExponent? : List Char → Option Int
  | [] => some 0
  | letter :: rest =>
    if letter = 'e' ∨ letter = 'E' then
      let (negative, unsigned) := splitSign rest
      let (digits, others) := splitDigits unsigned
      if digits.isEmpty || !others.isEmpty then none
      else
        let size : Int := digitsValue 0 digits
        some (if negative then -size else size)
    else none

/-- An unsigned numeral: digits with at most one point among them, and an exponent. -/
def readMagnitude? (text : List Char) : Option Decimal :=
  let (whole, rest) := splitDigits text
  let (behind, rest) :=
    match rest with
    | '.' :: others => splitDigits others
    | others => ([], others)
  if whole.isEmpty && behind.isEmpty then none
  else
    (readExponent? rest).map fun exponent =>
      ⟨digitsValue (digitsValue 0 whole) behind, exponent - behind.length⟩

/-- The number nearest to a decimal one. Far outside the range the answer is known from the number
of digits alone. -/
def ofDecimal (negative : Bool) (decimal : Decimal) : Binary64 :=
  let place := (Nat.toDigits 10 decimal.digits).length + decimal.exponent
  if decimal.digits = 0 ∨ place < -400 then ofMagnitudeBits negative 0
  else if 400 < place then ofMagnitudeBits negative infinityBits
  else if 0 ≤ decimal.exponent then
    ofRatio negative (decimal.digits * tenTo decimal.exponent.toNat) 1
  else ofRatio negative decimal.digits (tenTo (-decimal.exponent).toNat)

/-- The number that a numeral or a word for an extreme stands for. -/
def read? (text : String) : Option Binary64 :=
  let (negative, unsigned) := splitSign text.toList
  match readMagnitude? unsigned with
  | some decimal => some (ofDecimal negative decimal)
  | none =>
    let word := String.ofList (unsigned.map Char.toLower)
    if word = "nan" then some (ofMagnitudeBits negative (infinityBits + twoTo 51))
    else if word = "inf" ∨ word = "infinity" then some (ofMagnitudeBits negative infinityBits)
    else none

end ValueAnatomy.Binary64
