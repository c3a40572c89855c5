import ScreenedSuite.Text.Basic
import ScreenedSuite.Toml.Basic
import ScreenedSuite.Toml.Error

/-! # Numbers

Integers are decimal, or hexadecimal, octal or binary behind a marker, and fit into 64 bits with a
sign. A number with a fraction or an exponent is a float. Single underscores may stand between
digits.
-/

namespace ScreenedSuite.Toml

/-- The values of the digits at the start of a text, with single underscores between them. -/
def takeDigits (value? : Char → Option Nat) : List Char → List Nat × List Char
  | [] => ([], [])
  | '_' :: rest => ([], '_' :: rest)
  | c :: rest =>
    match value? c with
    | none => ([], c :: rest)
    | some digit =>
      match rest with
      | '_' :: next :: more =>
        match value? next with
        | none => ([digit], rest)
        | some _ =>
          let (digits, rest) := takeDigits value? (next :: more)
          (digit :: digits, rest)
      | rest =>
        let (digits, rest) := takeDigits value? rest
        (digit :: digits, rest)

/-- The value of a digit below a base. -/
def digitBelow? (base : Nat) (c : Char) : Option Nat :=
  (Text.hexValue? c).filter (· < base)

/-- The number that digits write in a base. -/
def ofDigits (base : Nat) (digits : List Nat) : Nat :=
  digits.foldl (fun value digit => value * base + digit) 0

/-- One or more decimal digits. -/
def readDigits (text : List Char) : Except Fault (List Nat × List Char) :=
  match takeDigits (digitBelow? 10) text with
  | ([], _) => .error (.before .invalidNumber text)
  | found => .ok found

/-- Decimal digits without a leading zero. -/
def readPlainDigits : List Char → Except Fault (List Nat × List Char)
  | '0' :: rest => .ok ([0], rest)
  | text => readDigits text

/-- An integer that fits into 64 bits with a sign. -/
def boundedInteger (value : Int) (rest : List Char) : Except Fault (Toml × List Char) :=
  if -Int.pow 2 63 ≤ value && value < Int.pow 2 63 then .ok (.integer value, rest)
  else .error (.before .numberOutOfRange rest)

/-- An integer in a base after its marker. -/
def readInBase (base : Nat) (text : List Char) : Except Fault (Toml × List Char) :=
  match takeDigits (digitBelow? base) text with
  | ([], _) => .error (.before .invalidNumber text)
  | (digits, rest) => boundedInteger (ofDigits base digits) rest

/-- A sign, which is negative or not. -/
def readSign : List Char → Bool × List Char
  | '-' :: rest => (true, rest)
  | '+' :: rest => (false, rest)
  | text => (false, text)

/-- The float with the given digits before and after the point and the given exponent. A positive
number beyond all floats is refused. -/
def boundedFloat (negative : Bool) (whole fraction : List Nat) (exponent : Int)
    (rest : List Char) : Except Fault (Toml × List Char) :=
  let digits := ofDigits 10 (whole ++ fraction)
  match Double.ofDecimal negative digits (exponent - fraction.length) with
  | .infinite false => .error (.before .numberOutOfRange rest)
  | other => .ok (.float other, rest)

/-- An exponent after its letter. -/
def readExponent (text : List Char) : Except Fault (Int × List Char) := do
  let (negative, text) := readSign text
  let (digits, rest) ← readDigits text
  let value : Int := ofDigits 10 digits
  return (if negative then -value else value, rest)

/-- A decimal number after its sign. -/
def readDecimal (negative : Bool) (text : List Char) : Except Fault (Toml × List Char) := do
  let (whole, rest) ← readPlainDigits text
  match rest with
  | '.' :: rest =>
    let (fraction, rest) ← readDigits rest
    match rest with
    | 'e' :: rest =>
      let (exponent, rest) ← readExponent rest
      boundedFloat negative whole fraction exponent rest
    | 'E' :: rest =>
      let (exponent, rest) ← readExponent rest
      boundedFloat negative whole fraction exponent rest
    | rest => boundedFloat negative whole fraction 0 rest
  | 'e' :: rest =>
    let (exponent, rest) ← readExponent rest
    boundedFloat negative whole [] exponent rest
  | 'E' :: rest =>
    let (exponent, rest) ← readExponent rest
    boundedFloat negative whole [] exponent rest
  | rest =>
    let value : Int := ofDigits 10 whole
    boundedInteger (if negative then -value else value) rest

/-- A number. -/
def readNumber (text : List Char) : Except Fault (Toml × List Char) :=
  match text with
  | '0' :: 'x' :: rest => readInBase 16 rest
  | '0' :: 'o' :: rest => readInBase 8 rest
  | '0' :: 'b' :: rest => readInBase 2 rest
  | text =>
    let (negative, unsigned) := readSign text
    match unsigned with
    | 'i' :: 'n' :: 'f' :: rest => .ok (.float (.infinite negative), rest)
    | 'n' :: 'a' :: 'n' :: rest => .ok (.float .notANumber, rest)
    | unsigned => readDecimal negative unsigned

end ScreenedSuite.Toml
