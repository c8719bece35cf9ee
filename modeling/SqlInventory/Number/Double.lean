/-!
# Numbers of double precision

A finite number is a significand below `2 ^ 53` times a power of two, and zero has a sign. What is
given exactly, as a quotient or as a decimal, is rounded to the nearest number, and half way between
two to the one with the even significand. What is too large to be rounded to a finite number is
infinite.
-/

namespace SqlInventory

/-- A number of double precision. -/
inductive Double where
  /-- `significand` times two to the power `exponent`. -/
  | finite (negative : Bool) (significand : Nat) (exponent : Int)
  /-- Infinity. -/
  | infinite (negative : Bool)
  /-- No number. -/
  | undefined
  deriving DecidableEq, Repr

namespace Double

/-- The quotient rounded to the nearest natural number, and a half to the even neighbour. -/
def nearest (numerator denominator : Nat) : Nat :=
  let below := numerator / denominator
  let twice := 2 * (numerator % denominator)
  if twice < denominator || (twice = denominator && below % 2 = 0) then below else below + 1

/-- Zero. -/
def zero (negative : Bool) : Double :=
  .finite negative 0 0

/-- The exponent of the last place of numbers as large as a quotient that is not zero. The lengths
of its terms give the exponent of its first place or the one above. -/
def lastPlace (numerator denominator : Nat) : Int :=
  let guess : Int := numerator.log2 - denominator.log2
  let first :=
    if numerator * Nat.pow 2 (-guess).toNat < denominator * Nat.pow 2 guess.toNat then guess - 1
    else guess
  max (first - 52) (-1074)

/-- The number nearest to a quotient. -/
def ofQuotient (negative : Bool) (numerator denominator : Nat) : Double :=
  if numerator = 0 then zero negative
  else
    let place := lastPlace numerator denominator
    let rounded := nearest (numerator * Nat.pow 2 (-place).toNat)
      (denominator * Nat.pow 2 place.toNat)
    let (significand, exponent) :=
      if rounded = Nat.pow 2 53 then (Nat.pow 2 52, place + 1) else (rounded, place)
    if significand = 0 then zero negative
    else if 971 < exponent then .infinite negative
    else .finite negative significand exponent

/-- The number nearest to `coefficient` times ten to the power `exponent`. Decimals whose first
digit is far out of range are not worked out. -/
def ofDecimal (negative : Bool) (coefficient : Nat) (exponent : Int) : Double :=
  let magnitude : Int := (Nat.toDigits 10 coefficient).length + exponent
  if coefficient = 0 || magnitude < -330 then zero negative
  else if 310 < magnitude then .infinite negative
  else ofQuotient negative (coefficient * Nat.pow 10 exponent.toNat)
    (Nat.pow 10 (-exponent).toNat)

/-- Whether a number is zero, of either sign. -/
def isZero : Double → Bool
  | .finite _ significand _ => significand == 0
  | _ => false

/-- The exact value of a finite number. -/
def value? : Double → Option Rat
  | .finite negative significand exponent =>
    let size : Int := (significand * Nat.pow 2 exponent.toNat : Nat)
    some (mkRat (if negative then -size else size) (Nat.pow 2 (-exponent).toNat))
  | _ => none

end Double

end SqlInventory
