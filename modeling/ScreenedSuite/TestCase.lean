import ScreenedSuite.Failure
import ScreenedSuite.Json.Reader
import ScreenedSuite.Unicode.CodeSet

/-! # Test cases

A test case is a named list of steps, each an action with its arguments. It is read from a JSON
object. The first defect, in the order name, documentation, tags,
steps, is reported with its place. Members that a test case does not have are passed over.
-/

namespace ScreenedSuite

/-- One step of a test case. -/
structure Step where
  action : String
  args : List String
deriving DecidableEq, Repr

/-- A test case. -/
structure TestCase where
  name : String
  documentation : Option String := none
  tags : List String := []
  steps : List Step := []
deriving DecidableEq, Repr

namespace TestCase

/-- What a part of a test case is read as, or the failure. -/
abbrev Checked (α : Type) :=
  Except Failure α

/-- The failure for a defect at a place. -/
def refuse {α : Type} (place : Place) (defect : Defect) : Checked α :=
  .error (.malformedInput place defect)

/-- A member that has to be a string and may not be blank. -/
def requiredText (members : List (String × Json)) (name : String) (place : Place) :
    Checked String :=
  match Json.member? members name with
  | none => refuse place .missing
  | some (.string text) => if Unicode.isBlankText text then refuse place .blank else .ok text
  | some _ => refuse place .notString

/-- The strings of an array from an index on. -/
def stringsFrom (place : Nat → Place) (index : Nat) : List Json → Checked (List String)
  | [] => .ok []
  | .string text :: rest => do
    let texts ← stringsFrom place (index + 1) rest
    return text :: texts
  | _ :: _ => refuse (place index) .notString

/-- A member that may be absent or null, and has to be an array of strings otherwise. -/
def optionalStrings (members : List (String × Json)) (name : String) (place : Place)
    (itemPlace : Nat → Place) : Checked (List String) :=
  match Json.member? members name with
  | none => .ok []
  | some .null => .ok []
  | some (.array items) => stringsFrom itemPlace 0 items
  | some _ => refuse place .notStrings

/-- The documentation, which may be absent or null. -/
def readDocumentation (members : List (String × Json)) : Checked (Option String) :=
  match Json.member? members "documentation" with
  | none => .ok none
  | some .null => .ok none
  | some (.string text) => .ok (some text)
  | some _ => refuse .documentation .notString

/-- The step at an index. -/
def readStep (index : Nat) : Json → Checked Step
  | .object members => do
    let action ← requiredText members "action" (.action index)
    let args ← optionalStrings members "args" (.args index) (.arg index)
    return ⟨action, args⟩
  | _ => refuse (.step index) .notObject

/-- The steps from an index on. -/
def stepsFrom (index : Nat) : List Json → Checked (List Step)
  | [] => .ok []
  | item :: rest => do
    let step ← readStep index item
    let steps ← stepsFrom (index + 1) rest
    return step :: steps

/-- The steps. -/
def readSteps (members : List (String × Json)) : Checked (List Step) :=
  match Json.member? members "steps" with
  | none => refuse .steps .missing
  | some (.array items) => stepsFrom 0 items
  | some _ => refuse .steps .notArray

/-- The test case that a JSON value describes. -/
def ofJson? : Json → Checked TestCase
  | .object members => do
    let name ← requiredText members "name" .name
    let documentation ← readDocumentation members
    let tags ← optionalStrings members "tags" .tags .tag
    let steps ← readSteps members
    return { name, documentation, tags, steps }
  | _ => refuse .document .notDocument

/-- The test case that a JSON text describes. -/
def ofText? (text : String) : Checked TestCase :=
  match Json.ofText? text with
  | .error error => refuse .document (.notJson error)
  | .ok value => ofJson? value

end TestCase

end ScreenedSuite
