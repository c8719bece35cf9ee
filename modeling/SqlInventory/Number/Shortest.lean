import SqlInventory.Number.Double
import SqlInventory.Text.Basic

/-!
# Shortest decimals

A number of double precision is written with the fewest digits that read back as the number; of the
decimals with that many digits it is the nearest one, and half way between two the even one. Digits
are tried from one up; on each grid only the two neighbours of the number come into question, and
seventeen digits always do.

Numbers whose point stands within sixteen digits, or behind at most three zeros, are written without
an exponent and with at least one digit behind the point.
-/

namespace SqlInventory

/-- Digits with a point in front of them, times ten to the power `point`. -/
structure DecimalDigits where
  /-- The digits. -/
  digits : Text
  /-- How many places the point is moved to the right. -/
  point : Int
  deriving DecidableEq, Repr

namespace Double

/-- How many digits a quotient that is not zero has before the point; zeros that follow the point
count as minus one each. -/
def digitsBeforePoint (numerator denominator : Nat) : Int :=
  if denominator ≤ numerator then (Nat.toDigits 10 (numerator / denominator)).length
  else
    let zeros := (List.range 400).find? fun n => denominator ≤ numerator * Nat.pow 10 (n + 1)
    0 - zeros.getD 0

/-- The nearest decimal with `count` digits that reads back as the number `significand` times two to
the power `exponent`. -/
def decimalOfLength? (significand : Nat) (exponent : Int) (count : Nat) : Option DecimalDigits :=
  let numerator := significand * Nat.pow 2 exponent.toNat
  let denominator := Nat.pow 2 (-exponent).toNat
  let unit := digitsBeforePoint numerator denominator - count
  let scaled := numerator * Nat.pow 10 (-unit).toNat
  let grid := denominator * Nat.pow 10 unit.toNat
  let below := scaled / grid
  let closest := nearest scaled grid
  let other := if closest = below then below + 1 else below
  let readsBack (n : Nat) : Bool := ofDecimal false n unit == .finite false significand exponent
  let shown (n : Nat) : DecimalDigits :=
    let digits := Text.ofNat n
    ⟨Text.dropTrailing (· == '0') digits, digits.length + unit⟩
  if readsBack closest then some (shown closest)
  else if readsBack other then some (shown other)
  else none

/-- The shortest decimal that reads back as the number `significand` times two to the power
`exponent`. -/
def shortest (significand : Nat) (exponent : Int) : DecimalDigits :=
  let found := (List.range 17).findSome? fun n => decimalOfLength? significand exponent (n + 1)
  found.getD ⟨['0'], 1⟩

end Double

namespace DecimalDigits

/-- Digits with the point in its place, at least one digit on either side of it. -/
def positional (d : DecimalDigits) : Text :=
  if d.point ≤ 0 then "0." ++ Text.fill (-d.point).toNat '0' ++ d.digits
  else
    let places := d.point.toNat
    let whole := d.digits.take places ++ Text.fill (places - d.digits.length) '0'
    let fraction := d.digits.drop places
    whole ++ "." ++ (if fraction.isEmpty then ['0'] else fraction)

/-- One digit before the point, and an exponent with a sign and at least two digits. -/
def scientific (d : DecimalDigits) : Text :=
  let exponent := d.point - 1
  let fraction : Text := match d.digits.drop 1 with
    | [] => []
    | more => '.' :: more
  let digits := Text.ofNat exponent.natAbs
  d.digits.take 1 ++ fraction ++ ['e', if exponent < 0 then '-' else '+'] ++
    Text.fill (2 - digits.length) '0' ++ digits

/-- Digits with the point in its place if that is near them, else with an exponent. -/
def text (d : DecimalDigits) : Text :=
  if -4 < d.point ∧ d.point ≤ 16 then d.positional else d.scientific

end DecimalDigits

namespace Double

/-- A number in words or digits. -/
def text : Double → Text
  | .undefined => "nan"
  | .infinite negative => if negative then "-inf" else "inf"
  | .finite negative significand exponent =>
    let size : Text := if significand = 0 then "0.0" else (shortest significand exponent).text
    if negative then '-' :: size else size

end Double

end SqlInventory
