import ScreenedSuite.Token
import ScreenedSuite.Unicode.CodeSet

/-! # Cells

A suite is laid out in cells, separated by two or more spaces. An argument is escaped such that
its cell is read back as the argument: escapes stand for line breaks, tabs and marks of variables,
and variables stand for an empty text and for spaces that would end the cell.
-/

namespace ScreenedSuite.Cell

/-- Whether a character before an opening brace marks a variable. -/
def marksVariable (c : Char) : Bool :=
  c == '$' || c == '@' || c == '&' || c == '%'

/-- A text with backslashes, line breaks, tabs and marks of variables escaped. -/
def escapeMarks : List Char → List Char
  | [] => []
  | '\\' :: rest => '\\' :: '\\' :: escapeMarks rest
  | '\n' :: rest => '\\' :: 'n' :: escapeMarks rest
  | '\r' :: rest => '\\' :: 'r' :: escapeMarks rest
  | '\t' :: rest => '\\' :: 't' :: escapeMarks rest
  | c :: rest =>
    if marksVariable c && rest.head? == some '\x7B' then '\\' :: c :: escapeMarks rest
    else c :: escapeMarks rest

/-- A text with a leading comment sign escaped. -/
def escapeComment : List Char → List Char
  | '#' :: rest => '\\' :: '#' :: rest
  | text => text

/-- Whether a character may begin the name of an argument. -/
def startsName (c : Char) : Bool :=
  c.isAlpha || c == '_'

/-- Whether a character may continue the name of an argument. -/
def continuesName (c : Char) : Bool :=
  c.isAlphanum || c == '_'

/-- A text with the equals sign of a leading `name=` escaped. -/
def escapeNamed : List Char → List Char
  | [] => []
  | c :: rest =>
    if startsName c then
      match rest.dropWhile continuesName with
      | '=' :: value => c :: rest.takeWhile continuesName ++ '\\' :: '=' :: value
      | _ => c :: rest
    else
      c :: rest

/-- The variable for a single space. -/
def spaceVariable : List Char :=
  r"${SPACE}".toList

/-- The variable for several spaces. -/
def spacesVariable (count : Nat) : List Char :=
  r"${SPACE * ".toList ++ (toString count).toList ++ r"}".toList

/-- What stands for a run of spaces inside a text. -/
def spaceRun (count : Nat) : List Char :=
  if count < 2 then List.replicate count ' ' else spacesVariable count

/-- A text with its runs of two or more spaces replaced; `spaces` is the number of spaces that come
directly before the text. -/
def escapeRuns (spaces : Nat) : List Char → List Char
  | [] => spaceRun spaces
  | c :: rest =>
    if c == ' ' then escapeRuns (spaces + 1) rest else spaceRun spaces ++ c :: escapeRuns 0 rest

/-- A text with a space at its start replaced. -/
def escapeFirst : List Char → List Char
  | ' ' :: rest => spaceVariable ++ rest
  | text => text

/-- A text with a space at its end replaced. -/
def escapeLast (text : List Char) : List Char :=
  if text.getLast? == some ' ' then text.dropLast ++ spaceVariable else text

/-- The cell for an argument. -/
def escape : List Char → List Char
  | [] => r"${EMPTY}".toList
  | text => escapeLast (escapeFirst (escapeRuns 0 (escapeNamed (escapeComment (escapeMarks text)))))

/-- The cell for an argument. -/
def ofArgument (value : String) : String :=
  String.ofList (escape value.toList)

/-- The cell for a token. Literals and placeholders stand as they are. -/
def ofToken (token : Token) : String :=
  match token.provenance with
  | .generated => token.value
  | .redacted => token.value
  | .verbatim => ofArgument token.value
  | .screened => ofArgument token.value

/-- Whether a character is a control. -/
def isControl (c : Char) : Bool :=
  c.toNat < 0x20 || (0x7F ≤ c.toNat && c.toNat < 0xA0)

/-- A text with each run of spaces made a single one; `spaced` tells whether a space comes directly
before the text. -/
def joinSpaces (spaced : Bool) : List Char → List Char
  | [] => []
  | c :: rest =>
    if c == ' ' then
      if spaced then joinSpaces true rest else ' ' :: joinSpaces true rest
    else
      c :: joinSpaces false rest

/-- The characters of a test case's name on its line. Controls become spaces, and a sign that
would make the line a comment or a header is escaped. -/
def nameLine (name : List Char) : List Char :=
  let flat := joinSpaces false ((Unicode.trim name).map fun c => if isControl c then ' ' else c)
  if "#".toList.isPrefixOf flat || "***".toList.isPrefixOf flat then '\\' :: flat else flat

/-- The line for the name of a test case. -/
def ofName (name : String) : String :=
  String.ofList (nameLine name.toList)

end ScreenedSuite.Cell
