import ScreenedSuite.Json.Error
import ScreenedSuite.Settings.Error
import ScreenedSuite.Template

/-! # Failures

Everything that can stop a conversion, by its cause. A defect of the input is told with its place
in the document.
-/

namespace ScreenedSuite

/-- A place in a document that describes a test case. -/
inductive Place where
  /-- The document itself. -/
  | document
  | name
  | documentation
  | tags
  | tag (index : Nat)
  | steps
  | step (index : Nat)
  | action (step : Nat)
  | args (step : Nat)
  | arg (step position : Nat)
  /-- A place known only by its description. -/
  | described (text : String)
deriving DecidableEq, Repr

/-- The text of a place. -/
def Place.text : Place → String
  | document => "$"
  | name => "name"
  | documentation => "documentation"
  | tags => "tags"
  | tag index => s!"tags[{index}]"
  | steps => "steps"
  | step index => s!"steps[{index}]"
  | action index => s!"steps[{index}].action"
  | args index => s!"steps[{index}].args"
  | arg index position => s!"steps[{index}].args[{position}]"
  | described text => text

/-- What is wrong at a place. -/
inductive Defect where
  /-- The text is not JSON. -/
  | notJson (error : Json.SyntaxError)
  /-- The document is not an object. -/
  | notDocument
  | notObject
  | notArray
  | notString
  | notStrings
  /-- A required member is absent. -/
  | missing
  /-- A text is empty or blank. -/
  | blank
  /-- An action is given a number of arguments that it does not take. -/
  | arity (action : String) (accepted : Arity) (given : Nat)
  /-- A defect known only by its description. -/
  | described (text : String)
deriving DecidableEq, Repr

/-- The wording of a defect. -/
def Defect.text : Defect → String
  | notJson error => error.message
  | notDocument => "expected a JSON object"
  | notObject => "expected an object"
  | notArray => "expected an array"
  | notString => "expected a string"
  | notStrings => "expected an array of strings"
  | missing => "missing required field"
  | blank => "must not be empty"
  | arity action accepted given =>
    "action `" ++ action ++ s!"` takes {accepted.text} argument(s), got {given}"
  | described text => text

/-- Why a conversion fails. -/
inductive Failure where
  /-- The input does not describe a test case. -/
  | malformedInput (place : Place) (defect : Defect)
  /-- The settings are refused. -/
  | configuration (error : SettingsError)
  /-- An action has no template, and such actions are rejected. -/
  | unsupportedAction (action : String) (step : Nat)
  /-- A dangerous command was met at the strict level. -/
  | securityViolation (ruleId pattern : String) (step : Nat) (preview : String)
  /-- A file could not be read or written. -/
  | storage (error : StorageError)
deriving DecidableEq, Repr

namespace Failure

/-- The wording of a failure. -/
def message : Failure → String
  | malformedInput place defect => "malformed input at `" ++ place.text ++ s!"`: {defect.text}"
  | configuration error => s!"configuration error: {error.message}"
  | unsupportedAction action step => "unsupported action `" ++ action ++ s!"` at step {step}"
  | securityViolation ruleId pattern step preview =>
    s!"security violation at step {step}: `{preview}` matched {ruleId} (" ++ "`" ++ pattern ++ "`)"
  | storage error => s!"I/O error: {error.message}"

/-- The exit code of a run that ends with a failure. -/
def exitCode : Failure → Nat
  | malformedInput _ _ => 2
  | unsupportedAction _ _ => 2
  | configuration _ => 3
  | securityViolation _ _ _ _ => 4
  | storage _ => 5

end Failure

end ScreenedSuite
