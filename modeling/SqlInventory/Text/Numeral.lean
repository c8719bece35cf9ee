import SqlInventory.Number.Double
import SqlInventory.Text.Basic
import SqlInventory.Text.Digit

/-!
# Reading numerals

A whole number may stand between blanks, have a sign, use the digits of any script, and have single
underscores between digits. It has at most `digitLimit` digits. A decimal number also has a fraction
and an exponent, or is one of the words for infinity and for no number; it is read in double
precision.

The information separators are blanks of a text, but no blanks around a numeral.
-/

namespace SqlInventory

/-- Why a text is no whole number. -/
inductive NumeralError where
  /-- It is not written like one. -/
  | malformed
  /-- It has too many digits. -/
  | tooLong (digits : Nat)
  deriving DecidableEq, Repr

namespace Text

/-- Blanks that may surround a numeral. -/
def isNumeralBlank (c : Char) : Bool :=
  isBlank c && !(28 ≤ c.toNat && c.toNat ≤ 31)

/-- The values of the digits of a numeral in which single underscores may part digits; `afterDigit`
tells whether a digit stands before it. -/
def digitValues? : Bool → Text → Option (List Nat)
  | afterDigit, [] => if afterDigit then some [] else none
  | afterDigit, c :: rest =>
    if c = '_' then
      if afterDigit then digitValues? false rest else none
    else match digitValue? c with
      | some d => (digitValues? true rest).map (d :: ·)
      | none => none

/-- The number that a sequence of decimal digits denotes. -/
def ofDigitValues (digits : List Nat) : Nat :=
  digits.foldl (fun n d => n * 10 + d) 0

/-- A sign, if there is one, and what follows it. -/
def takeSign : Text → Bool × Text
  | '-' :: rest => (true, rest)
  | '+' :: rest => (false, rest)
  | t => (false, t)

/-- How many digits a whole number may have, zeros in front included. -/
def digitLimit : Nat := 4300

/-- The message about a whole number with too many digits. -/
def tooLongMessage (digits : Nat) : Text :=
  "Exceeds the limit (" ++ ofNat digitLimit ++ " digits) for integer string conversion: value has "
    ++ ofNat digits ++ " digits; use sys.set_int_max_str_digits() to increase the limit"

/-- The whole number that a text denotes. Digits are counted before what follows them is looked
at. -/
def wholeNumber (t : Text) : Except NumeralError Int :=
  let (negative, body) := takeSign (t.dropWhile isNumeralBlank)
  let inNumeral (c : Char) : Bool := c == '_' || (digitValue? c).isSome
  match digitValues? false (body.takeWhile inNumeral) with
  | none => .error .malformed
  | some values =>
    if digitLimit < values.length then .error (.tooLong values.length)
    else if (body.dropWhile inNumeral).all isNumeralBlank then
      let n : Int := ofDigitValues values
      .ok (if negative then -n else n)
    else .error .malformed

/-- The whole number that a text denotes, if it denotes one. -/
def wholeNumber? (t : Text) : Option Int :=
  (wholeNumber t).toOption

/-- The number that a text of a sign, digits, a fraction and an exponent denotes. -/
def finiteDecimal? (t : Text) : Option Double :=
  let isExponentMark (c : Char) : Bool := c == 'e' || c == 'E'
  let (negative, body) := takeSign t
  let significand := body.takeWhile fun c => !isExponentMark c
  let exponent? : Option Int := match body.dropWhile fun c => !isExponentMark c with
    | [] => some 0
    | _ :: e =>
      let (down, digits) := takeSign e
      (digitValues? false digits).map fun values =>
        let n : Int := ofDigitValues values
        if down then -n else n
  let whole := significand.takeWhile (· != '.')
  let digits (part : Text) : Option (List Nat) :=
    if part.isEmpty then some [] else digitValues? false part
  let fraction := (significand.dropWhile (· != '.')).drop 1
  match exponent?, digits whole, digits fraction with
  | some e, some w, some f =>
    if w.isEmpty && f.isEmpty then none
    else some (Double.ofDecimal negative (ofDigitValues (w ++ f)) (e - f.length))
  | _, _, _ => none

/-- The decimal number that a text denotes. -/
def decimal? (t : Text) : Option Double :=
  let stripped := stripBy isNumeralBlank t
  let (negative, body) := takeSign stripped
  let word := body.map Char.toLower
  if word = "inf".toList || word = "infinity".toList then some (.infinite negative)
  else if word = "nan".toList then some .undefined
  else finiteDecimal? stripped

end Text

end SqlInventory
