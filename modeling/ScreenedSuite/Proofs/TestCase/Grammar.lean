import Mathlib.Data.List.Forall2
import ScreenedSuite.TestCase

/-! # Documents that describe test cases

A document describes a test case when its members give the name, the documentation, the tags and
the steps (`ScreenedSuite.TestCase.Describes`). What can be wrong with a document is said place by
place and without regard to anything else that may be wrong
(`ScreenedSuite.TestCase.Fault`). The places of a document are ordered as a reader meets them, a
place before all that lies inside it (`ScreenedSuite.Place.Before`), so that one fault may be the
first (`ScreenedSuite.TestCase.IsFirst`).
-/

namespace ScreenedSuite

/-- The number of the member that a place lies in, and the way from there. Places are ordered by it
like the words of a dictionary. -/
def Place.order : Place → List Nat
  | document => []
  | name => [0]
  | documentation => [1]
  | tags => [2]
  | tag index => [2, index]
  | steps => [3]
  | step index => [3, index]
  | action index => [3, index, 0]
  | args index => [3, index, 1]
  | arg index position => [3, index, 1, position]
  | described _ => [4]

/-- One place is met before another. -/
def Place.Before (earlier later : Place) : Prop :=
  earlier.order < later.order

/-- The texts of all places in a document: the names of the members on the way to a place, behind
each of an array the index in brackets. -/
theorem Place.text_eq (index position : Nat) :
    document.text = "$" ∧ name.text = "name" ∧ documentation.text = "documentation" ∧
      tags.text = "tags" ∧ (tag index).text = "tags[" ++ toString index ++ "]" ∧
      steps.text = "steps" ∧ (step index).text = "steps[" ++ toString index ++ "]" ∧
      (action index).text = "steps[" ++ toString index ++ "].action" ∧
      (args index).text = "steps[" ++ toString index ++ "].args" ∧
      (arg index position).text =
        "steps[" ++ toString index ++ "].args[" ++ toString position ++ "]" :=
  ⟨rfl, rfl, rfl, rfl, rfl, rfl, rfl, rfl, rfl, rfl⟩

namespace TestCase

/-- Whether anything of a text is left when it is trimmed. -/
def Visible (text : String) : Prop :=
  Unicode.trim text.toList ≠ []

/-- The text that a required member gives. -/
inductive GivesText : Option Json → String → Prop
  | text {text : String} (visible : Visible text) : GivesText (some (.string text)) text

/-- The documentation that an optional member gives. -/
inductive GivesDocumentation : Option Json → Option String → Prop
  | absent : GivesDocumentation none none
  | null : GivesDocumentation (some .null) none
  | text (text : String) : GivesDocumentation (some (.string text)) (some text)

/-- The strings that an optional member gives. -/
inductive GivesStrings : Option Json → List String → Prop
  | absent : GivesStrings none []
  | null : GivesStrings (some .null) []
  | array (texts : List String) : GivesStrings (some (.array (texts.map Json.string))) texts

/-- The step that a value describes. -/
inductive DescribesStep : Json → Step → Prop
  | object {members : List (String × Json)} {action : String} {args : List String}
      (action_given : GivesText (Json.member? members "action") action)
      (args_given : GivesStrings (Json.member? members "args") args) :
      DescribesStep (.object members) ⟨action, args⟩

/-- The steps that a required member gives. -/
inductive GivesSteps : Option Json → List Step → Prop
  | array {items : List Json} {steps : List Step}
      (described : List.Forall₂ DescribesStep items steps) :
      GivesSteps (some (.array items)) steps

/-- The test case that a document describes. -/
inductive Describes : Json → TestCase → Prop
  | object {members : List (String × Json)} {name : String} {documentation : Option String}
      {tags : List String} {steps : List Step}
      (name_given : GivesText (Json.member? members "name") name)
      (documentation_given :
        GivesDocumentation (Json.member? members "documentation") documentation)
      (tags_given : GivesStrings (Json.member? members "tags") tags)
      (steps_given : GivesSteps (Json.member? members "steps") steps) :
      Describes (.object members) ⟨name, documentation, tags, steps⟩

/-- What is wrong with a required text. -/
inductive TextFault : Option Json → Defect → Prop
  | missing : TextFault none .missing
  | whole {value : Json} (notText : ∀ text, value ≠ .string text) :
      TextFault (some value) .notString
  | blank {text : String} (hidden : ¬ Visible text) : TextFault (some (.string text)) .blank

/-- What is wrong with the documentation. -/
inductive DocumentationFault : Option Json → Defect → Prop
  | whole {value : Json} (notNull : value ≠ .null) (notText : ∀ text, value ≠ .string text) :
      DocumentationFault (some value) .notString

/-- What is wrong with an optional list of strings, as a whole or at a position. -/
inductive StringsFault : Option Json → Option Nat → Defect → Prop
  | whole {value : Json} (notNull : value ≠ .null) (notArray : ∀ items, value ≠ .array items) :
      StringsFault (some value) none .notStrings
  | item {items : List Json} {position : Nat} {value : Json}
      (here : items[position]? = some value) (notText : ∀ text, value ≠ .string text) :
      StringsFault (some (.array items)) (some position) .notString

/-- What is wrong with the step at an index. -/
inductive StepFault (index : Nat) : Json → Place → Defect → Prop
  | whole {value : Json} (notObject : ∀ members, value ≠ .object members) :
      StepFault index value (.step index) .notObject
  | action {members : List (String × Json)} {defect : Defect}
      (wrong : TextFault (Json.member? members "action") defect) :
      StepFault index (.object members) (.action index) defect
  | args {members : List (String × Json)} {position : Option Nat} {defect : Defect}
      (wrong : StringsFault (Json.member? members "args") position defect) :
      StepFault index (.object members) (position.elim (.args index) (.arg index)) defect

/-- What is wrong with the steps. -/
inductive StepsFault : Option Json → Place → Defect → Prop
  | missing : StepsFault none .steps .missing
  | whole {value : Json} (notArray : ∀ items, value ≠ .array items) :
      StepsFault (some value) .steps .notArray
  | item {items : List Json} {index : Nat} {item : Json} {place : Place} {defect : Defect}
      (here : items[index]? = some item) (wrong : StepFault index item place defect) :
      StepsFault (some (.array items)) place defect

/-- What is wrong with a document. A document can have faults at many places. -/
inductive Fault : Json → Place → Defect → Prop
  | whole {value : Json} (notObject : ∀ members, value ≠ .object members) :
      Fault value .document .notDocument
  | name {members : List (String × Json)} {defect : Defect}
      (wrong : TextFault (Json.member? members "name") defect) :
      Fault (.object members) .name defect
  | documentation {members : List (String × Json)} {defect : Defect}
      (wrong : DocumentationFault (Json.member? members "documentation") defect) :
      Fault (.object members) .documentation defect
  | tags {members : List (String × Json)} {position : Option Nat} {defect : Defect}
      (wrong : StringsFault (Json.member? members "tags") position defect) :
      Fault (.object members) (position.elim .tags .tag) defect
  | steps {members : List (String × Json)} {place : Place} {defect : Defect}
      (wrong : StepsFault (Json.member? members "steps") place defect) :
      Fault (.object members) place defect

/-- Of several faults, the one that is met before all others. -/
def IsFirst (fault : Place → Defect → Prop) (place : Place) (defect : Defect) : Prop :=
  fault place defect ∧ ∀ other otherDefect, fault other otherDefect →
    (other = place ∧ otherDefect = defect) ∨ place.Before other

/-- A value without the members of other names. -/
def withOnly (names : List String) : Json → Json
  | .object members => .object (members.filter fun member => names.contains member.1)
  | value => value

/-- The steps without the members that steps do not have. -/
def bareSteps : Json → Json
  | .array items => .array (items.map (withOnly ["action", "args"]))
  | value => value

/-- A member of a document, the steps without the members that steps do not have. -/
def bareMember (member : String × Json) : String × Json :=
  (member.1, if member.1 = "steps" then bareSteps member.2 else member.2)

/-- A document without the members that test cases and steps do not have. -/
def bare (document : Json) : Json :=
  match withOnly ["name", "documentation", "tags", "steps"] document with
  | .object members => .object (members.map bareMember)
  | value => value

end TestCase

end ScreenedSuite
