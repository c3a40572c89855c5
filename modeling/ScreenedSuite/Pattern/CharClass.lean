import ScreenedSuite.Unicode.CaseFold
import ScreenedSuite.Unicode.CodeSet
import ScreenedSuite.Unicode.Word

/-! # Character classes

A class is kept as it was written, as a tree of ranges, named sets and set operations. Folding case
is one of the operations: a folded class holds a character when the class below holds one of its
case variants. A class can name properties of characters, whose sets are looked up in a table once
the whole class is known.
-/

namespace ScreenedSuite

/-- The name of a property of characters. -/
inductive PropertyName where
  /-- A single letter. -/
  | letter (c : Char)
  /-- A name in braces. -/
  | named (name : String)
  /-- A name and a value in braces. -/
  | valued (name value : String)
deriving DecidableEq, Repr

/-- The sets of the characters that have a property. -/
structure PropertyTable where
  /-- The set of a property, if the property is known. -/
  find? : PropertyName → Option Unicode.CodeSet

/-- The table that knows no property. -/
def PropertyTable.empty : PropertyTable :=
  ⟨fun _ => none⟩

/-- A set of characters, as an expression. -/
inductive CharClass where
  /-- The characters between two characters, both included. -/
  | range (first last : Char)
  /-- The decimal digits. -/
  | digit
  /-- White space. -/
  | space
  /-- The characters of words. -/
  | word
  /-- The characters with a property that is still to be looked up. -/
  | property (name : PropertyName)
  /-- The characters of a set that was looked up. -/
  | listed (set : Unicode.CodeSet)
  /-- No character. -/
  | never
  /-- The characters of either class. -/
  | either (left right : CharClass)
  /-- The characters of both classes. -/
  | both (left right : CharClass)
  /-- The characters of the left class that the right one lacks. -/
  | without (left right : CharClass)
  /-- The characters of exactly one of the classes. -/
  | oneOf (left right : CharClass)
  /-- The characters that the class lacks. -/
  | other (inner : CharClass)
  /-- The characters with a case variant in the class. -/
  | anyCase (inner : CharClass)
  /-- The characters that are in the class, or become so by changing the case of an ASCII letter. -/
  | anyAsciiCase (inner : CharClass)
deriving DecidableEq, Repr

namespace CharClass

/-- The class of a single character. -/
def single (c : Char) : CharClass :=
  range c c

/-- The class of every character. -/
def any : CharClass :=
  other never

/-- The union of several classes. -/
def union : List CharClass → CharClass
  | [] => never
  | [inner] => inner
  | inner :: rest => either inner (union rest)

/-- An ASCII letter in its other case; any other character stays itself. -/
def swapAsciiCase (c : Char) : Char :=
  if c.isLower then c.toUpper else c.toLower

/-- Whether the class holds a character. -/
def contains : CharClass → Char → Bool
  | range first last, c => first ≤ c && c ≤ last
  | digit, c => Unicode.isDigit c
  | space, c => Unicode.isBlank c
  | word, c => Unicode.isWord c
  | property _, _ => false
  | listed set, c => set.contains c
  | never, _ => false
  | either left right, c => left.contains c || right.contains c
  | both left right, c => left.contains c && right.contains c
  | without left right, c => left.contains c && !right.contains c
  | oneOf left right, c => left.contains c != right.contains c
  | other inner, c => !inner.contains c
  | anyCase inner, c => (Unicode.caseVariants c).any inner.contains
  | anyAsciiCase inner, c => inner.contains c || inner.contains (swapAsciiCase c)

/-- The class with the sets of its properties, if all of them are known. -/
def lookUp (table : PropertyTable) : CharClass → Option CharClass
  | property name => (table.find? name).map listed
  | either left right => do return either (← left.lookUp table) (← right.lookUp table)
  | both left right => do return both (← left.lookUp table) (← right.lookUp table)
  | without left right => do return without (← left.lookUp table) (← right.lookUp table)
  | oneOf left right => do return oneOf (← left.lookUp table) (← right.lookUp table)
  | other inner => (inner.lookUp table).map other
  | anyCase inner => (inner.lookUp table).map anyCase
  | anyAsciiCase inner => (inner.lookUp table).map anyAsciiCase
  | chars => some chars

/-- The ASCII digits. -/
def asciiDigit : CharClass :=
  range '0' '9'

/-- The ASCII characters of words. -/
def asciiWord : CharClass :=
  union [range '0' '9', range 'A' 'Z', single '_', range 'a' 'z']

/-- The ASCII white space. -/
def asciiSpace : CharClass :=
  union [range '\t' '\r', single ' ']

end CharClass

end ScreenedSuite
