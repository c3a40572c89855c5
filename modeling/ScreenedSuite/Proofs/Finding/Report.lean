import ScreenedSuite.Proofs.AuditLog.Entries
import ScreenedSuite.Proofs.Json.Members

/-! # Reading reports of findings

The report of several findings is a single line of JSON. It is read back as one object for each
finding, in order, which tells all of the finding but its value: in place of the value stands the
preview, and findings that differ in nothing else have one report
(`ScreenedSuite.Finding.reportText_readsBack`).
-/

namespace ScreenedSuite

/-- The names of the members that tell a location. -/
def Location.toldNames (location : Location) : List String :=
  "step" :: if location.arg.isSome then ["arg"] else []

/-- Members that tell a location and nothing else. -/
structure Location.ToldBy (location : Location) (members : List (String × Json)) : Prop where
  names : (members.map (·.1)).Perm location.toldNames
  step : Json.member? members "step" = some (.count location.step)
  arg : Json.member? members "arg" = location.arg.map .count

namespace Finding

/-- The names of the members that tell a finding. -/
def toldNames (finding : Finding) : List String :=
  ["kind", "action", "location", "preview"] ++
    ((if finding.ruleId.isSome then ["rule_id"] else []) ++
      if finding.pattern.isSome then ["pattern"] else [])

/-- Members that tell a finding but for its value, and nothing else. -/
structure ToldBy (finding : Finding) (members : List (String × Json)) : Prop where
  names : (members.map (·.1)).Perm finding.toldNames
  kind : ∃ name, Json.member? members "kind" = some (.string name) ∧
    FindingKind.ofName? name = some finding.kind
  ruleId : Json.member? members "rule_id" = finding.ruleId.map .string
  pattern : Json.member? members "pattern" = finding.pattern.map .string
  treatment : ∃ name, Json.member? members "action" = some (.string name) ∧
    Treatment.ofName? name = some finding.treatment
  location : ∃ inner, Json.member? members "location" = some (.object inner) ∧
    finding.location.ToldBy inner
  preview : Json.member? members "preview" = some (.string (ScreenedSuite.preview finding.value))

/-- Two findings that differ at most in the value, and not in its preview. -/
structure ToldAlike (first second : Finding) : Prop where
  rest : { first with value := second.value } = second
  preview : first.preview = second.preview

/-- A text that reports findings and nothing else. -/
structure ReadsBack (findings : List Finding) (text : String) : Prop where
  /-- The text has neither line feeds nor other control characters below the space. -/
  printed : Json.Printed text.toList
  /-- One object is read back for each finding, in order. -/
  readsBack : ∃ reports : List (List (String × Json)),
    Json.ofText? text = .ok (.array (reports.map .object)) ∧ List.Forall₂ ToldBy findings reports
  /-- Only the report of no findings is an empty array. -/
  nonempty : text = "[]" ↔ findings = []
  /-- Findings that differ in hidden values only have the same text. -/
  withheld : ∀ others, List.Forall₂ ToldAlike findings others → reportText others = text

end Finding

/-! ## Single reports -/

/-- The members of the report of a location. -/
def Location.members (location : Location) : List (String × Json) :=
  ("step", .count location.step) :: optionalMember "arg" (location.arg.map .count)

namespace Finding

/-- The members of the report of a finding. -/
def members (finding : Finding) : List (String × Json) :=
  ("kind", .string finding.kind.name)
    :: optionalMember "rule_id" (finding.ruleId.map .string)
    ++ optionalMember "pattern" (finding.pattern.map .string)
    ++ [("action", .string finding.treatment.name),
      ("location", .object finding.location.members),
      ("preview", .string finding.preview)]

theorem ToldAlike.report_eq {first second : Finding} (alike : first.ToldAlike second) :
    second.report = first.report := by
  obtain ⟨rest, preview⟩ := alike
  rw [report, ← preview, ← rest]
  rfl

end Finding

end ScreenedSuite
