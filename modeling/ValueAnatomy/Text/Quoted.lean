/-
**Text between double quotes.**

A quoted text shows every character of a text visibly: the quote and the backslash behind a
backslash, the common controls by their letter, and every other character that is unprintable or
would attach to its neighbour by its number in braces. A single quote stands as it is.

* `escape`: what is written for one character;
* `quote`: the whole text;
* `escape_of_visible`: a visible character other than the quote and the backslash stands for
  itself.
-/

import ValueAnatomy.Text.Unprintable
import ValueAnatomy.Text.Extending
import ValueAnatomy.Text.Hex

namespace ValueAnatomy.Text

/-- A character by its number: a backslash, `u`, and the hexadecimal digits in braces. -/
def numbered (character : Char) : List Char :=
  ['\\', 'u', '\x7b'] ++ hexDigits character.toNat ++ ['\x7d']

/-- What is written for one character of a quoted text. -/
def escape (character : Char) : List Char :=
  if character = '\x00' then ['\\', '0']
  else if character = '\t' then ['\\', 't']
  else if character = '\r' then ['\\', 'r']
  else if character = '\n' then ['\\', 'n']
  else if character = '\\' then ['\\', '\\']
  else if character = '"' then ['\\', '"']
  else if isExtending character || isUnprintable character then numbered character
  else [character]

/-- A text between double quotes. -/
def quote (text : String) : String :=
  "\"" ++ String.ofList (text.toList.flatMap escape) ++ "\""

/-- A visible character other than the quote and the backslash stands for itself. -/
theorem escape_of_visible {character : Char} (visible : isUnprintable character = false)
    (apart : isExtending character = false) (plain : character ≠ '"')
    (straight : character ≠ '\\') : escape character = [character] := by
  have shown : ¬ character.toNat < 0x20 := fun before => by
    simp [isUnprintable_of_lt_space before] at visible
  have notNull : character ≠ '\x00' := fun same => shown (by simp [same])
  have notTab : character ≠ '\t' := fun same => shown (by simp [same])
  have notReturn : character ≠ '\r' := fun same => shown (by simp [same])
  have notNewline : character ≠ '\n' := fun same => shown (by simp [same])
  simp [escape, notNull, notTab, notReturn, notNewline, straight, plain, apart, visible]

end ValueAnatomy.Text
