/-! # Findings

A finding records that screening withheld a value, or that a step was passed through as a comment.
It keeps the value itself, which reports and logs replace by a preview: the number of characters
and, of a longer value, the first three of them.
-/

namespace ScreenedSuite

/-- The number of leading characters that a preview shows. -/
def shownChars : Nat :=
  3

/-- Values up to this length are masked in full. -/
def maskedLength : Nat :=
  8

/-- The preview of a value. -/
def preview (value : String) : String :=
  let chars := value.toList
  let shown := if chars.length ≤ maskedLength then [] else chars.take shownChars
  s!"{String.ofList shown}*** ({chars.length} chars)"

/-- What a finding is about. -/
inductive FindingKind where
  /-- A dangerous command. -/
  | dangerous
  /-- A sensitive path. -/
  | sensitive
  /-- An action without a template. -/
  | unmapped
deriving DecidableEq, Repr

namespace FindingKind

/-- The name of a kind. -/
def name : FindingKind → String
  | dangerous => "dangerous"
  | sensitive => "sensitive"
  | unmapped => "unmapped"

/-- What a kind is called in a summary. -/
def subject : FindingKind → String
  | dangerous => "dangerous command"
  | sensitive => "sensitive path"
  | unmapped => "unmapped action"

end FindingKind

/-- What was done about a finding. -/
inductive Treatment where
  /-- The value was withheld. -/
  | redacted
  /-- The step became a comment. -/
  | passthrough
deriving DecidableEq, Repr

/-- The name of a treatment. -/
def Treatment.name : Treatment → String
  | redacted => "redacted"
  | passthrough => "passthrough"

/-- A step of a test case, or one of its arguments. -/
structure Location where
  step : Nat
  arg : Option Nat
deriving DecidableEq, Repr

/-- The text of a location. -/
def Location.text (location : Location) : String :=
  match location.arg with
  | some arg => s!"steps[{location.step}].args[{arg}]"
  | none => s!"steps[{location.step}]"

/-- A decision that did not stop the conversion. -/
structure Finding where
  kind : FindingKind
  /-- The rule that decided. -/
  ruleId : Option String
  /-- The pattern of that rule. -/
  pattern : Option String
  value : String
  treatment : Treatment
  location : Location
deriving DecidableEq, Repr

namespace Finding

/-- The preview of the value. -/
def preview (finding : Finding) : String :=
  ScreenedSuite.preview finding.value

/-- A finding in one line. A withheld value is not shown. -/
def summary (finding : Finding) : String :=
  match finding.treatment, finding.ruleId with
  | .redacted, some rule =>
    s!"{finding.kind.subject} redacted at {finding.location.text} ({rule})"
  | .redacted, none => s!"{finding.kind.subject} redacted at {finding.location.text}"
  | .passthrough, _ =>
    finding.kind.subject ++ " `" ++ finding.value ++ "` passed through as comment at "
      ++ finding.location.text

end Finding

end ScreenedSuite
