import SqlInventory.Text.Basic
import SqlInventory.Text.Printable

/-!
# Texts in quotation marks

A text is shown on one line between quotation marks: single ones, unless the text holds a single
and no double mark. The mark in use and the backslash are escaped, line feed, carriage return and
tab have short forms, and every other character that is not printable is shown by its code.
-/

namespace SqlInventory

namespace Text

/-- The lower-case hexadecimal numeral of `n`, with zeros in front up to `width` digits. -/
def hex (width n : Nat) : Text :=
  let digits := Nat.toDigits 16 n
  fill (width - digits.length) '0' ++ digits

/-- How a character is shown between two `mark`s. -/
def showChar (mark c : Char) : Text :=
  if c = mark || c = '\\' then ['\\', c]
  else if c = '\n' then ['\\', 'n']
  else if c = '\r' then ['\\', 'r']
  else if c = '\t' then ['\\', 't']
  else if isPrintable c then [c]
  else if c.toNat < 0x100 then "\\x".toList ++ hex 2 c.toNat
  else if c.toNat < 0x10000 then "\\u".toList ++ hex 4 c.toNat
  else "\\U".toList ++ hex 8 c.toNat

/-- The quotation mark that shows `t` best. -/
def markFor (t : Text) : Char :=
  if t.contains '\'' && !t.contains '"' then '"' else '\''

/-- A text in quotation marks. -/
def quoted (t : Text) : Text :=
  let mark := markFor t
  [mark] ++ t.flatMap (showChar mark) ++ [mark]

end Text

end SqlInventory
