/-! # Faults of pattern texts

The reasons for refusing the text of a pattern.
-/

namespace ScreenedSuite

/-- Why a text is no pattern. -/
inductive PatternError where
  /-- A group is opened and never closed. -/
  | unclosedGroup
  /-- A group is closed that was never opened. -/
  | unopenedGroup
  /-- A bracketed class is never closed. -/
  | unclosedClass
  /-- A repetition has nothing to repeat. -/
  | nothingToRepeat
  /-- A repetition count lacks its closing brace. -/
  | unclosedCount
  /-- A repetition count lacks a number. -/
  | missingCount
  /-- A repetition count does not fit into 32 bits. -/
  | countTooLarge
  /-- The lower count of a repetition exceeds the upper one. -/
  | countsReversed
  /-- The text ends inside an escape. -/
  | unfinishedEscape
  /-- An escape has no meaning. -/
  | unknownEscape
  /-- A back-reference, which this language lacks. -/
  | backReference
  /-- A look-around group, which this language lacks. -/
  | lookAround
  /-- A character code holds something other than hexadecimal digits. -/
  | badHexDigit
  /-- A character code denotes no character. -/
  | badCharacterCode
  /-- A character property is not known. -/
  | unknownProperty
  /-- A character property is named by a backslash. -/
  | badPropertyName
  /-- A character property is named where Unicode is switched off. -/
  | propertyWithoutUnicode
  /-- A special word boundary is unfinished or not known. -/
  | badWordBoundary
  /-- An escape that is no character stands in a bracketed class. -/
  | escapeInClass
  /-- An end of a range is not a single character. -/
  | rangeEndNotCharacter
  /-- The ends of a range stand in the wrong order. -/
  | rangeReversed
  /-- The text ends inside the flags of a group. -/
  | unfinishedFlags
  /-- A flag is not known. -/
  | unknownFlag
  /-- A flag is given twice. -/
  | repeatedFlag
  /-- The flags are negated twice. -/
  | repeatedNegation
  /-- No flag follows the negation. -/
  | danglingNegation
  /-- The text ends inside the name of a group. -/
  | unfinishedGroupName
  /-- The name of a group is empty or holds a character that names may not hold. -/
  | badGroupName
  /-- Two groups have the same name. -/
  | repeatedGroupName
  /-- Without Unicode, the pattern could match a part of a character. -/
  | splitsCharacters
  /-- The pattern is nested too deeply. -/
  | nestedTooDeeply
  /-- The machine of the pattern would be too large. -/
  | tooLarge
deriving DecidableEq, Repr

namespace PatternError

/-- The wording of a fault. -/
def message : PatternError → String
  | unclosedGroup => "unclosed group"
  | unopenedGroup => "unopened group"
  | unclosedClass => "unclosed character class"
  | nothingToRepeat => "repetition operator missing expression"
  | unclosedCount => "unclosed counted repetition"
  | missingCount => "repetition quantifier expects a valid decimal"
  | countTooLarge => "decimal literal invalid"
  | countsReversed => "invalid repetition count range, the start must be <= the end"
  | unfinishedEscape => "incomplete escape sequence, reached end of pattern prematurely"
  | unknownEscape => "unrecognized escape sequence"
  | backReference => "backreferences are not supported"
  | lookAround => "look-around, including look-ahead and look-behind, is not supported"
  | badHexDigit => "invalid hexadecimal digit"
  | badCharacterCode => "hexadecimal literal is not a Unicode scalar value"
  | unknownProperty => "Unicode property not found"
  | badPropertyName => "invalid Unicode character class"
  | propertyWithoutUnicode => "Unicode not allowed here"
  | badWordBoundary => "special word boundary assertion is unclosed or not recognized"
  | escapeInClass => "invalid escape sequence found in character class"
  | rangeEndNotCharacter => "invalid range boundary, must be a literal"
  | rangeReversed => "invalid character class range, the start must be <= the end"
  | unfinishedFlags => "expected flag but got end of pattern"
  | unknownFlag => "unrecognized flag"
  | repeatedFlag => "duplicate flag"
  | repeatedNegation => "flag negation operator repeated"
  | danglingNegation => "dangling flag negation operator"
  | unfinishedGroupName => "unclosed capture group name"
  | badGroupName => "invalid capture group character"
  | repeatedGroupName => "duplicate capture group name"
  | splitsCharacters => "pattern can match invalid UTF-8"
  | nestedTooDeeply => "exceeded the maximum number of nested parentheses/brackets (250)"
  | tooLarge => "compiled pattern exceeds size limit of 10485760 bytes"

end PatternError

end ScreenedSuite
