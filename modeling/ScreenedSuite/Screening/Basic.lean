import ScreenedSuite.ActionTable.Basic
import ScreenedSuite.Choice
import ScreenedSuite.Classification
import ScreenedSuite.Failure
import ScreenedSuite.Finding.Basic
import ScreenedSuite.TestCase

/-! # Screening test cases

A test case is converted step by step. The template of a step's action decides which arguments are
screened. A flagged argument is replaced by a placeholder and recorded as a finding; a dangerous
command at the strict level stops the conversion. What a step yields depends on that step and its
index alone.
-/

namespace ScreenedSuite

/-- What decides about a conversion. -/
structure Screening where
  catalog : Catalog
  actions : ActionTable
  unmapped : UnmappedPolicy
  level : Level

/-- Statements, with the findings recorded on the way to them. -/
structure Piece where
  statements : List Statement
  findings : List Finding
deriving DecidableEq, Repr

/-- One piece after another. -/
def Piece.append (first second : Piece) : Piece :=
  ⟨first.statements ++ second.statements, first.findings ++ second.findings⟩

/-- A converted test case. -/
structure Conversion where
  name : String
  documentation : Option String
  tags : List String
  statements : List Statement
  findings : List Finding
deriving DecidableEq, Repr

namespace Screening

/-- The finding about a flagged argument. -/
def flaggedFinding (kind : FindingKind) (entry : Entry) (value : String) (location : Location) :
    Finding where
  kind := kind
  ruleId := some entry.id
  pattern := some entry.pattern
  value := value
  treatment := .redacted
  location := location

/-- The finding about a step whose action has no template. -/
def unmappedFinding (step : Step) (index : Nat) : Finding where
  kind := .unmapped
  ruleId := none
  pattern := none
  value := step.action
  treatment := .passthrough
  location := ⟨index, none⟩

/-- The judgement on an argument with a role. Free text is always safe. -/
def judge (screening : Screening) (role : Role) (value : String) : Classification :=
  match role.screenedBy with
  | none => .safe
  | some kind => screening.catalog.classify screening.level kind value

/-- The token for an argument that is not flagged. -/
def plainToken (role : Role) (value : String) : Token :=
  match role.screenedBy with
  | none => .verbatim value
  | some _ => .screened value

/-- The token for an argument, and the finding if it is flagged. -/
def screen (screening : Screening) (role : Role) (value : String) (location : Location) :
    Except Failure (Token × Option Finding) :=
  match screening.judge role value with
  | .safe => .ok (plainToken role value, none)
  | .sensitive entry => .ok (.redacted, some (flaggedFinding .sensitive entry value location))
  | .dangerous entry =>
    match screening.level with
    | .strict =>
      .error (.securityViolation entry.id entry.pattern location.step (preview value))
    | _ => .ok (.redacted, some (flaggedFinding .dangerous entry value location))

/-- The tokens and findings for the arguments of a step from an index on. -/
def screenFrom (screening : Screening) (template : Template) (step : Nat) (index : Nat) :
    List String → Except Failure (List Token × List Finding)
  | [] => .ok ([], [])
  | value :: rest => do
    let role := (template.roleAt index).getD .text
    let (token, finding) ← screening.screen role value ⟨step, some index⟩
    let (tokens, findings) ← screening.screenFrom template step (index + 1) rest
    return (token :: tokens, finding.toList ++ findings)

/-- What a step with a template yields. -/
def convertMapped (screening : Screening) (template : Template) (index : Nat) (step : Step) :
    Except Failure Piece :=
  if template.arity.admits step.args.length then do
    let (tokens, findings) ← screening.screenFrom template index 0 step.args
    return ⟨template.instantiate tokens, findings⟩
  else
    .error (.malformedInput (.args index)
      (.arity step.action template.arity step.args.length))

/-- The comment that stands for a step whose action has no template. -/
def commentStatement (step : Step) : Statement where
  assign := none
  keyword := "Comment"
  args := .verbatim s!"unmapped action: {step.action}" :: step.args.map .verbatim
  library := none

/-- What a step without a template yields. -/
def convertUnmapped (policy : UnmappedPolicy) (index : Nat) (step : Step) : Except Failure Piece :=
  match policy with
  | .reject => .error (.unsupportedAction step.action index)
  | .passthrough => .ok ⟨[commentStatement step], [unmappedFinding step index]⟩

/-- What a step yields. -/
def convertStep (screening : Screening) (index : Nat) (step : Step) : Except Failure Piece :=
  match screening.actions.get? step.action with
  | some template => screening.convertMapped template index step
  | none => convertUnmapped screening.unmapped index step

/-- What the steps from an index on yield. -/
def convertFrom (screening : Screening) (index : Nat) : List Step → Except Failure Piece
  | [] => .ok ⟨[], []⟩
  | step :: rest => do
    let piece ← screening.convertStep index step
    let more ← screening.convertFrom (index + 1) rest
    return piece.append more

/-- The converted test case. -/
def convert (screening : Screening) (case : TestCase) : Except Failure Conversion := do
  let piece ← screening.convertFrom 0 case.steps
  return {
    name := case.name
    documentation := case.documentation
    tags := case.tags
    statements := piece.statements
    findings := piece.findings }

end Screening

end ScreenedSuite
