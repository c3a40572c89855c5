import ScreenedSuite.Failure

/-! # Log events

A run reports what it does by events. The text of an event is one line: its severity, its message
and its fields in order.
-/

namespace ScreenedSuite

/-- How important an event is. -/
inductive Severity where
  | error
  | warn
  | info
  | debug
  | trace
deriving DecidableEq, Repr

namespace Severity

/-- The position of a severity, the most important one first. -/
def rank : Severity → Nat
  | error => 1
  | warn => 2
  | info => 3
  | debug => 4
  | trace => 5

/-- A severity at the start of a line. -/
def tag : Severity → String
  | error => "ERROR"
  | warn => " WARN"
  | info => " INFO"
  | debug => "DEBUG"
  | trace => "TRACE"

end Severity

/-- The value of a field. -/
inductive FieldValue where
  | text (value : String)
  | failure (failure : Failure)
deriving DecidableEq, Repr

/-- Something worth telling about a run. -/
structure Event where
  severity : Severity
  message : String
  fields : List (String × FieldValue) := []
deriving DecidableEq, Repr

/-- A character of a message. Controls that a terminal would act on are shown by their codes. -/
def messageChar (c : Char) : List Char :=
  if c == '\x1B' then r"\x1b".toList
  else if c == '\x07' then r"\x07".toList
  else if c == '\x08' then r"\x08".toList
  else if c == '\x0C' then r"\x0c".toList
  else if c == '\x7F' then r"\x7f".toList
  else if 0x80 ≤ c.toNat && c.toNat ≤ 0x9F then
    ['\\', 'u', '\x7B'] ++ Nat.toDigits 16 c.toNat ++ ['\x7D']
  else [c]

namespace Event

/-- A field as it follows the message, given how failures are worded. -/
def fieldText (describe : Failure → String) (field : String × FieldValue) : String :=
  match field.2 with
  | .text value => s!" {field.1}={value}"
  | .failure failure => s!" {field.1}={describe failure}"

/-- The line of an event, given how failures are worded. -/
def line (describe : Failure → String) (event : Event) : String :=
  event.severity.tag ++ " " ++ String.ofList (event.message.toList.flatMap messageChar)
    ++ String.join (event.fields.map (fieldText describe))

end Event

end ScreenedSuite
