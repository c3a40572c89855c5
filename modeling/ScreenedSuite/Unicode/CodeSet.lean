/-! # Sets of characters

A set of characters is written as the ascending list of the code points at which membership
changes, starting outside the set. Membership of a small code point is settled by the first few
boundaries. One of these sets is the white space, which is trimmed from the ends of texts.
-/

namespace ScreenedSuite.Unicode

/-- A set of characters, given by the code points at which membership changes. -/
structure CodeSet where
  boundaries : List Nat
deriving DecidableEq, Repr

namespace CodeSet

/-- Membership of a code point among the remaining boundaries; `inside` is the state before the
first of them. -/
def member (inside : Bool) : List Nat → Nat → Bool
  | [], _ => inside
  | boundary :: rest, code => if code < boundary then inside else member (!inside) rest code

/-- Whether the set holds a character. -/
def contains (set : CodeSet) (c : Char) : Bool :=
  member false set.boundaries c.toNat

end CodeSet

/-- Characters with the property White_Space. -/
def whiteSpace : CodeSet := ⟨
  [0x0009, 0x000E, 0x0020, 0x0021, 0x0085, 0x0086, 0x00A0, 0x00A1, 0x1680, 0x1681, 0x2000, 0x200B,
    0x2028, 0x202A, 0x202F, 0x2030, 0x205F, 0x2060, 0x3000, 0x3001]⟩

/-- Whether a character is white space. -/
def isBlank (c : Char) : Bool :=
  whiteSpace.contains c

/-- The text without the white space at its end. -/
def trimEnd (text : List Char) : List Char :=
  (text.reverse.dropWhile isBlank).reverse

/-- The text without the white space at either end. -/
def trim (text : List Char) : List Char :=
  trimEnd (text.dropWhile isBlank)

/-- Whether a text holds nothing but white space. -/
def isBlankText (text : String) : Bool :=
  text.toList.all isBlank

end ScreenedSuite.Unicode
