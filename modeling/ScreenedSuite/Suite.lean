import ScreenedSuite.Cell
import ScreenedSuite.Screening.Basic

/-! # Suites

A suite is the text that a converted test case is written as: a section that imports the libraries
in use, if there are any, and a section with the test case. Below its name the test case has one
row of cells for the documentation, one for the tags and one for each statement, as far as they
exist.
-/

namespace ScreenedSuite.Suite

/-- The text between two cells. -/
def separator (width : Nat) : String :=
  String.ofList (List.replicate (max width leastSeparatorWidth) ' ')

/-- Ordered texts with one more, unless it is among them. -/
def insertOnce (text : String) : List String → List String
  | [] => [text]
  | other :: rest =>
    if text < other then text :: other :: rest
    else if text = other then other :: rest
    else other :: insertOnce text rest

/-- The libraries that statements need, in ascending order. -/
def libraries (statements : List Statement) : List String :=
  (statements.filterMap (·.library)).foldr insertOnce []

/-- The cells of a statement. -/
def statementCells (statement : Statement) : List String :=
  (statement.assign.map fun target => s!"{target}=").toList
    ++ statement.keyword :: statement.args.map Cell.ofToken

/-- The rows of a test case below its name. A test case without statements has a row that does
nothing. -/
def rows (conversion : Conversion) : List (List String) :=
  (conversion.documentation.map fun text => ["[Documentation]", Cell.ofArgument text]).toList
    ++ (if conversion.tags.isEmpty then []
      else ["[Tags]" :: conversion.tags.map Cell.ofArgument])
    ++ (if conversion.statements.isEmpty then [["No Operation"]]
      else conversion.statements.map statementCells)

/-- The line of a row. -/
def rowLine (separator : String) (cells : List String) : String :=
  separator ++ separator.intercalate cells

/-- The lines of the section that imports libraries. -/
def settingsLines (separator : String) (libraries : List String) : List String :=
  if libraries.isEmpty then []
  else
    "*** Settings ***" :: libraries.map (fun library => s!"Library{separator}{library}") ++ [""]

/-- The lines of a suite. -/
def lines (width : Nat) (conversion : Conversion) : List String :=
  settingsLines (separator width) (libraries conversion.statements)
    ++ "*** Test Cases ***" :: Cell.ofName conversion.name
      :: (rows conversion).map (rowLine (separator width))

/-- The text of a suite. -/
def render (width : Nat) (conversion : Conversion) : String :=
  String.join ((lines width conversion).map (· ++ "\n"))

end ScreenedSuite.Suite
