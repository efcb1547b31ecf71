/-
**Numbers in base sixteen.**

`hex` writes a number with its fewest digits, `hexPadded` with at least so many.
-/

namespace ValueAnatomy.Text

/-- The digits of a number in base sixteen, without leading zeros. -/
def hexDigits (number : Nat) : List Char :=
  Nat.toDigits 16 number

def hex (number : Nat) : String :=
  String.ofList (hexDigits number)

/-- A number in base sixteen, filled up with zeros to at least `width` digits. -/
def hexPadded (width number : Nat) : String :=
  String.ofList ((hexDigits number).leftpad width '0')

end ValueAnatomy.Text
