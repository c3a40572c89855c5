/-! # Numbers too large for double precision

A number in a document must fit into a double-precision float. What is compared is not the written
value itself but the product of its leading digits and a power of ten, each rounded to 53 bits: a
document is refused when that product rounds to infinity.
-/

namespace ScreenedSuite.Json

/-- A natural number rounded to its 53 leading bits, a tie going to the even neighbour. -/
def roundToDouble (n : Nat) : Nat :=
  if n < Nat.pow 2 53 then n
  else
    let unit := Nat.pow 2 (n.log2 - 52)
    let quotient := n / unit
    let rest := n % unit
    if rest * 2 > unit || (rest * 2 == unit && quotient % 2 == 1) then
      (quotient + 1) * unit
    else
      quotient * unit

/-- The least number that rounds to infinity. -/
def firstInfinite : Nat :=
  Nat.pow 2 1024 - Nat.pow 2 970

/-- Whether a significand times a power of ten is out of range. -/
def isOutOfRange (significand : Nat) (exponent : Int) : Bool :=
  significand != 0 && 0 ≤ exponent
    && (308 < exponent
      || firstInfinite ≤ roundToDouble significand * roundToDouble (Nat.pow 10 exponent.toNat))

end ScreenedSuite.Json
