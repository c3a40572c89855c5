import ScreenedSuite.Text.Basic

/-! # Faults of JSON texts

A fault is a reason together with a position. While a text is read the position is known as the
number of bytes that stay unread; `SyntaxError.locate` turns it into a line and a column.
-/

namespace ScreenedSuite.Json

/-- Why a text is no JSON value. -/
inductive Reason where
  | unfinishedValue
  | unfinishedList
  | unfinishedObject
  | unfinishedString
  | expectedValue
  | expectedLiteral
  | expectedCommaOrBracket
  | expectedCommaOrBrace
  | expectedColon
  | expectedName
  | trailingComma
  | trailingCharacters
  | invalidNumber
  | numberOutOfRange
  | invalidEscape
  | loneSurrogate
  | unfinishedSurrogatePair
  | controlCharacter
  | nestedTooDeeply
deriving DecidableEq, Repr

/-- The wording of a reason. -/
def Reason.message : Reason → String
  | unfinishedValue => "EOF while parsing a value"
  | unfinishedList => "EOF while parsing a list"
  | unfinishedObject => "EOF while parsing an object"
  | unfinishedString => "EOF while parsing a string"
  | expectedValue => "expected value"
  | expectedLiteral => "expected ident"
  | expectedCommaOrBracket => "expected `,` or `]`"
  | expectedCommaOrBrace => r"expected `,` or `}`"
  | expectedColon => "expected `:`"
  | expectedName => "key must be a string"
  | trailingComma => "trailing comma"
  | trailingCharacters => "trailing characters"
  | invalidNumber => "invalid number"
  | numberOutOfRange => "number out of range"
  | invalidEscape => "invalid escape"
  | loneSurrogate => "lone leading surrogate in hex escape"
  | unfinishedSurrogatePair => "unexpected end of hex escape"
  | controlCharacter =>
    "control character (\\u0000-\\u001F) found while parsing a string"
  | nestedTooDeeply => "recursion limit exceeded"

/-- A reason with the number of bytes behind its position. -/
structure Fault where
  reason : Reason
  unread : Nat
deriving DecidableEq, Repr

/-- A fault at the start of the unread text. -/
def Fault.before (reason : Reason) (unread : List Char) : Fault :=
  ⟨reason, Text.byteLength unread⟩

/-- A fault one byte into the unread text, or at its end. -/
def Fault.atByte (reason : Reason) (unread : List Char) : Fault :=
  ⟨reason, Text.byteLength unread - 1⟩

/-- A reason with its line, counted from one, and its column in bytes, counted from the last line
feed. -/
structure SyntaxError where
  reason : Reason
  line : Nat
  column : Nat
deriving DecidableEq, Repr

namespace SyntaxError

/-- A fault of a text with its line and column. -/
def locate (text : List Char) (fault : Fault) : SyntaxError :=
  let (line, column) := Text.positionOf text fault.unread
  ⟨fault.reason, line, column⟩

/-- The wording of a located fault. -/
def message (error : SyntaxError) : String :=
  s!"{error.reason.message} at line {error.line} column {error.column}"

end SyntaxError

end ScreenedSuite.Json
