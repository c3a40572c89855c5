/-! # Hexadecimal digits and positions

Hexadecimal digits are read in either case and written in lower case. While a text is read, a
position is known as the number of bytes that stay unread. From it follow the line, counted from
one, and the column, counted in bytes from the last line feed.
-/

namespace ScreenedSuite.Text

/-- The value of a hexadecimal digit. -/
def hexValue? (c : Char) : Option Nat :=
  if '0' ≤ c && c ≤ '9' then some (c.toNat - '0'.toNat)
  else if 'a' ≤ c && c ≤ 'f' then some (c.toNat - 'a'.toNat + 10)
  else if 'A' ≤ c && c ≤ 'F' then some (c.toNat - 'A'.toNat + 10)
  else none

/-- The hexadecimal digit of a value below sixteen. -/
def hexDigit (n : Nat) : Char :=
  if n < 10 then Char.ofNat ('0'.toNat + n) else Char.ofNat ('a'.toNat + (n - 10))

/-- The number of bytes of a text. -/
def byteLength (text : List Char) : Nat :=
  (text.map (·.utf8Size)).foldr (· + ·) 0

/-- The line and column reached after a number of bytes, from a given line and column on. -/
def positionAfter (line column : Nat) : Nat → List Char → Nat × Nat
  | 0, _ => (line, column)
  | bytes, [] => (line, column + bytes)
  | bytes, c :: rest =>
    if bytes < c.utf8Size then (line, column + bytes)
    else if c == '\n' then positionAfter (line + 1) 0 (bytes - c.utf8Size) rest
    else positionAfter line (column + c.utf8Size) (bytes - c.utf8Size) rest

/-- The line and column of a text at which a number of its bytes stay unread. -/
def positionOf (text : List Char) (unread : Nat) : Nat × Nat :=
  positionAfter 1 0 (byteLength text - unread) text

end ScreenedSuite.Text
