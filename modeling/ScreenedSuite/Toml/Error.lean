import ScreenedSuite.Text.Basic

/-! # Faults of TOML documents

A document is refused where it does not follow the grammar, or where it defines a key twice.
-/

namespace ScreenedSuite.Toml

/-- Why a text does not follow the grammar. -/
inductive Reason where
  | expectedKey
  | expectedEquals
  | expectedValue
  | expectedLineEnd
  | expectedClosing
  | unclosedString
  | invalidCharacter
  | invalidEscape
  | invalidNumber
  | numberOutOfRange
  | invalidDate
  | nestedTooDeeply
deriving DecidableEq, Repr

/-- The wording of a reason. -/
def Reason.message : Reason → String
  | expectedKey => "expected a key"
  | expectedEquals => "expected an equals sign"
  | expectedValue => "expected a value"
  | expectedLineEnd => "expected the end of the line"
  | expectedClosing => "expected a separator or a closing bracket"
  | unclosedString => "unclosed string"
  | invalidCharacter => "invalid character"
  | invalidEscape => "invalid escape sequence"
  | invalidNumber => "invalid number"
  | numberOutOfRange => "number out of range"
  | invalidDate => "invalid date or time"
  | nestedTooDeeply => "nested too deeply"

/-- A reason with the number of bytes behind its position. -/
structure Fault where
  reason : Reason
  unread : Nat
deriving DecidableEq, Repr

/-- A fault at the start of the unread text. -/
def Fault.before (reason : Reason) (unread : List Char) : Fault :=
  ⟨reason, Text.byteLength unread⟩

/-- Why a text is no document. -/
inductive DocumentError where
  /-- The text breaks the grammar at a line and column. -/
  | malformed (reason : Reason) (line column : Nat)
  /-- A key is defined twice, or as things that exclude each other. -/
  | conflict (key : String)
deriving DecidableEq, Repr

namespace DocumentError

/-- A fault of a text with its line and column. -/
def locate (text : List Char) (fault : Fault) : DocumentError :=
  let (line, column) := Text.positionOf text fault.unread
  malformed fault.reason line (column + 1)

/-- The wording of an error. -/
def message : DocumentError → String
  | malformed reason line column => s!"{reason.message} at line {line}, column {column}"
  | conflict key => "duplicate key `" ++ key ++ "`"

end DocumentError

end ScreenedSuite.Toml
