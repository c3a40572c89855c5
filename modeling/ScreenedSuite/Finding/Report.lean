import ScreenedSuite.Finding.Basic
import ScreenedSuite.Json.Printer

/-! # Reports of findings

A report holds everything about a finding except its value, in whose place stands the preview.
Members that do not apply are left out.
-/

namespace ScreenedSuite

/-- A member that is left out where it does not apply. -/
def optionalMember (name : String) (value : Option Json) : List (String × Json) :=
  (value.map fun present => (name, present)).toList

/-- The report of a location. -/
def Location.report (location : Location) : Json :=
  .object (("step", .count location.step) :: optionalMember "arg" (location.arg.map .count))

namespace Finding

/-- The report of a finding. -/
def report (finding : Finding) : Json :=
  .object (
    ("kind", .string finding.kind.name)
      :: optionalMember "rule_id" (finding.ruleId.map .string)
      ++ optionalMember "pattern" (finding.pattern.map .string)
      ++ [("action", .string finding.treatment.name),
        ("location", finding.location.report),
        ("preview", .string finding.preview)])

/-- The report of several findings as JSON text. -/
def reportText (findings : List Finding) : String :=
  (Json.array (findings.map report)).compact

end Finding

end ScreenedSuite
