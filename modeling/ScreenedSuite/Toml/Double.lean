/-! # Double-precision floats and their shortest text

A float is a whole number of at most 53 bits times a power of two. A decimal number is rounded to
the nearest float, a tie going to the even neighbour. A float is written with the fewest digits
that round to it again, always positionally and always with a fraction.
-/

namespace ScreenedSuite

/-- A double-precision float. -/
inductive Double where
  | notANumber
  | infinite (negative : Bool)
  /-- The number `mantissa * 2 ^ exponent`. -/
  | finite (negative : Bool) (mantissa : Nat) (exponent : Int)
deriving DecidableEq, Repr

namespace Double

/-- A quotient rounded to the nearest whole number, a tie going to the even neighbour. -/
def roundDiv (numerator denominator : Nat) : Nat :=
  let quotient := numerator / denominator
  let rest := numerator % denominator
  if rest * 2 > denominator || (rest * 2 == denominator && quotient % 2 == 1) then quotient + 1
  else quotient

/-- A numerator and denominator, scaled by a power of two. -/
def scale (numerator denominator : Nat) (power : Int) : Nat × Nat :=
  if power ≤ 0 then (numerator * Nat.pow 2 (-power).toNat, denominator)
  else (numerator, denominator * Nat.pow 2 power.toNat)

/-- The positive float nearest to a quotient. -/
def ofQuotient (negative : Bool) (numerator denominator : Nat) : Double :=
  let guess : Int := (numerator.log2 : Int) - denominator.log2 - 52
  let (scaledNum, scaledDen) := scale numerator denominator guess
  let fitted := if scaledNum < Nat.pow 2 52 * scaledDen then guess - 1 else guess
  let exponent := max fitted (-1074)
  let (scaledNum, scaledDen) := scale numerator denominator exponent
  let mantissa := roundDiv scaledNum scaledDen
  let (mantissa, exponent) :=
    if mantissa == Nat.pow 2 53 then (Nat.pow 2 52, exponent + 1) else (mantissa, exponent)
  if exponent > 971 then infinite negative else finite negative mantissa exponent

/-- The float nearest to `digits * 10 ^ power`. -/
def ofDecimal (negative : Bool) (digits : Nat) (power : Int) : Double :=
  let magnitude : Int := (Nat.toDigits 10 digits).length + power
  if digits == 0 || magnitude < -400 then finite negative 0 0
  else if magnitude > 400 then infinite negative
  else if power ≥ 0 then ofQuotient negative (digits * Nat.pow 10 power.toNat) 1
  else ofQuotient negative digits (Nat.pow 10 (-power).toNat)

/-- The whole number nearest to `mantissa * 2 ^ exponent` on the grid of the multiples of
`10 ^ power` that rounds back to it, if there is one. -/
def onGrid? (mantissa : Nat) (exponent power : Int) : Option Nat :=
  -- Twice the value and the ends of its rounding interval, over a common denominator.
  let closeBelow := mantissa == Nat.pow 2 52 && exponent > -1074
  let (unit, denominator) := scale 1 1 (-exponent)
  let unit := unit * (if power < 0 then Nat.pow 10 (-power).toNat else 1)
  let denominator := denominator * (if power ≥ 0 then Nat.pow 10 power.toNat else 1)
  let value := 4 * mantissa * unit
  let low := value - (if closeBelow then unit else 2 * unit)
  let high := value + 2 * unit
  let denominator := 4 * denominator
  let inside (n : Nat) : Bool :=
    if mantissa % 2 == 0 then low ≤ n * denominator && n * denominator ≤ high
    else low < n * denominator && n * denominator < high
  let below := value / denominator
  let above := below + 1
  let aboveNearer := value - below * denominator ≥ above * denominator - value
  if inside above && (aboveNearer || !inside below) then some above
  else if inside below && below != 0 then some below
  else none

/-- The fewest digits, as a whole number, and the power of ten that go with a positive float. -/
def shortest (mantissa : Nat) (exponent : Int) : Nat × Int :=
  let highest : Int := (((mantissa.log2 : Int) + exponent + 1) * 30103) / 100000 + 1
  match (List.range 20).findSome? fun (step : Nat) =>
      (onGrid? mantissa exponent (highest - step)).map fun n => (n, highest - (step : Int)) with
  | some found => found
  | none => (mantissa, exponent)

/-- The digits of a whole number times a power of ten, with at least one digit of fraction. -/
def positional (digits : Nat) (power : Int) : String :=
  let text := Nat.toDigits 10 digits
  if power ≥ 0 then
    String.ofList (text ++ List.replicate power.toNat '0') ++ ".0"
  else
    let places := (-power).toNat
    let padded := List.replicate (places + 1 - text.length) '0' ++ text
    String.ofList (padded.take (padded.length - places)) ++ "."
      ++ String.ofList (padded.drop (padded.length - places))

/-- The text of a float. -/
def text : Double → String
  | notANumber => "NaN"
  | infinite false => "inf"
  | infinite true => "-inf"
  | finite negative mantissa exponent =>
    let sign := if negative then "-" else ""
    if mantissa == 0 then sign ++ "0.0"
    else
      let (digits, power) := shortest mantissa exponent
      sign ++ positional digits power

end Double

end ScreenedSuite
