import ScreenedSuite.Toml.Error

/-! # Dates and times

A date, a time, or a date with a time and perhaps an offset. Only their form and ranges are checked.
-/

namespace ScreenedSuite.Toml

/-- A number of exactly two digits within bounds. -/
def twoDigits? (least most : Nat) : List Char → Option (Nat × List Char)
  | a :: b :: rest =>
    if a.isDigit && b.isDigit then
      let value := (a.toNat - '0'.toNat) * 10 + (b.toNat - '0'.toNat)
      if least ≤ value && value ≤ most then some (value, rest) else none
    else none
  | _ => none

/-- The text after a character that has to come next. -/
def after? (expected : Char) : List Char → Option (List Char)
  | c :: rest => if c == expected then some rest else none
  | [] => none

/-- The number of days of a month. -/
def daysOf (year month : Nat) : Nat :=
  if month == 2 then
    if year % 4 == 0 && (year % 100 != 0 || year % 400 == 0) then 29 else 28
  else if month == 4 || month == 6 || month == 9 || month == 11 then 30
  else 31

/-- The text after the month and day of a date, which a year and a hyphen precede. -/
def afterMonthAndDay? (year : Nat) (text : List Char) : Option (List Char) := do
  let (month, rest) ← twoDigits? 1 12 text
  let rest ← after? '-' rest
  let (_, rest) ← twoDigits? 1 (daysOf year month) rest
  return rest

/-- The text after the fraction of a second. -/
def afterFraction? : List Char → Option (List Char)
  | '.' :: rest =>
    match rest.takeWhile (·.isDigit) with
    | [] => none
    | digits => some (rest.drop digits.length)
  | text => some text

/-- The text after a time. -/
def afterTime? (text : List Char) : Option (List Char) := do
  let (_, rest) ← twoDigits? 0 23 text
  let rest ← after? ':' rest
  let (_, rest) ← twoDigits? 0 59 rest
  let rest ← after? ':' rest
  let (_, rest) ← twoDigits? 0 60 rest
  afterFraction? rest

/-- The text after an offset, if there is one. -/
def afterOffset? : List Char → Option (List Char)
  | [] => some []
  | c :: rest =>
    if c == 'Z' || c == 'z' then some rest
    else if c == '+' || c == '-' then do
      let (_, rest) ← twoDigits? 0 23 rest
      let rest ← after? ':' rest
      let (_, rest) ← twoDigits? 0 59 rest
      return rest
    else some (c :: rest)

/-- The text after what follows a date: perhaps a time with perhaps an offset. -/
def afterDate? (text : List Char) : Option (List Char) :=
  match text with
  | c :: rest =>
    if c == 'T' || c == 't' || c == ' ' then
      match twoDigits? 0 23 rest with
      | some (_, ':' :: _) => afterTime? rest >>= afterOffset?
      | _ => some text
    else some text
  | [] => some []

/-- The text after the date or time it starts with. `none` stands for no date or time, and an inner
`none` for an invalid one. -/
def dateTime? : List Char → Option (Option (List Char))
  | a :: b :: c :: d :: rest =>
    let isYear := a.isDigit && b.isDigit && c.isDigit && d.isDigit
    match rest with
    | '-' :: rest =>
      if isYear then
        let digit (c : Char) := c.toNat - '0'.toNat
        let year := digit a * 1000 + digit b * 100 + digit c * 10 + digit d
        some (afterMonthAndDay? year rest >>= afterDate?)
      else none
    | rest =>
      if a.isDigit && b.isDigit && c == ':' then some (afterTime? (a :: b :: c :: d :: rest))
      else none
  | _ => none

end ScreenedSuite.Toml
