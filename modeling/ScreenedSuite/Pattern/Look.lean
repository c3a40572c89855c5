import ScreenedSuite.Pattern.CharClass

/-! # Conditions on a position

A look condition consumes nothing: it holds or fails at a position of a text, and depends only on
the character before the position and the one after it.
-/

namespace ScreenedSuite

/-- A condition on a position in a text. -/
inductive Look where
  /-- The position is at the start of the text. -/
  | textStart
  /-- The position is at the end of the text. -/
  | textEnd
  /-- The position is at the start of a line that a line feed ends. -/
  | lineStart
  /-- The position is at the end of such a line. -/
  | lineEnd
  /-- The position is at the start of a line, where lines end in a carriage return, a line feed or
  the two together. -/
  | crlfLineStart
  /-- The position is at the end of such a line. -/
  | crlfLineEnd
  /-- Exactly one of the neighbours is among the letters of words. -/
  | boundary (letters : CharClass)
  /-- Both neighbours are among the letters of words, or neither is. -/
  | noBoundary (letters : CharClass)
  /-- A word starts here. -/
  | wordStart (letters : CharClass)
  /-- A word ends here. -/
  | wordEnd (letters : CharClass)
  /-- The character before belongs to no word. -/
  | wordStartHalf (letters : CharClass)
  /-- The character after belongs to no word. -/
  | wordEndHalf (letters : CharClass)
deriving DecidableEq, Repr

namespace Look

/-- Whether a neighbour exists and belongs to a class. -/
def isIn (letters : CharClass) : Option Char → Bool
  | none => false
  | some c => letters.contains c

/-- Whether the condition holds between two neighbouring characters. -/
def holds (before after : Option Char) : Look → Bool
  | textStart => before.isNone
  | textEnd => after.isNone
  | lineStart => before.isNone || before == some '\n'
  | lineEnd => after.isNone || after == some '\n'
  | crlfLineStart =>
    before.isNone || before == some '\n' || (before == some '\r' && after != some '\n')
  | crlfLineEnd =>
    after.isNone || after == some '\r' || (after == some '\n' && before != some '\r')
  | boundary letters => isIn letters before != isIn letters after
  | noBoundary letters => isIn letters before == isIn letters after
  | wordStart letters => !isIn letters before && isIn letters after
  | wordEnd letters => isIn letters before && !isIn letters after
  | wordStartHalf letters => !isIn letters before
  | wordEndHalf letters => !isIn letters after

end Look

end ScreenedSuite
