import ScreenedSuite.AuditLog
import ScreenedSuite.Proofs.Json.Members

/-! # Lines of audit logs

What an audit log tells about a conversion is read back from its line, which is a single line
(`ScreenedSuite.AuditEntry.tells_compact`). The value and the pattern of a finding are not told: the
line has no members for them, and it does not depend on them.
-/

namespace ScreenedSuite

/-! ## Reading reports -/

namespace Json

/-- The text of a string. -/
def text? : Json → Option String
  | string text => some text
  | _ => none

/-- The number of a count. -/
def count? : Json → Option Nat
  | number spelling =>
    if spelling.toList.all (·.isDigit) then some (Nat.ofDigitChars 10 spelling.toList 0) else none
  | _ => none

/-- The items of an array. -/
def items? : Json → Option (List Json)
  | array items => some items
  | _ => none

/-- The members of an object. An object with a member of another name is refused. -/
def membersAmong? (names : List String) : Json → Option (List (String × Json))
  | object members =>
    if members.all fun member => names.contains member.1 then some members else none
  | _ => none

theorem count?_count (n : Nat) : (count n).count? = some n := by
  have digits : (Nat.toDigits 10 n).all (·.isDigit) = true :=
    List.all_eq_true.mpr fun c member => isDigit_of_mem_toDigits member
  simp only [count, count?, Nat.toString_eq_ofList_toDigits, String.toList_ofList, digits,
    ↓reduceIte]
  rw [Nat.ofDigitChars_toDigits (by decide) (by decide)]

end Json

/-- The kind with a name. -/
def FindingKind.ofName? (name : String) : Option FindingKind :=
  if name = "dangerous" then some .dangerous
  else if name = "sensitive" then some .sensitive
  else if name = "unmapped" then some .unmapped
  else none

/-- The treatment with a name. -/
def Treatment.ofName? (name : String) : Option Treatment :=
  if name = "redacted" then some .redacted
  else if name = "passthrough" then some .passthrough
  else none

theorem FindingKind.ofName?_name (kind : FindingKind) : ofName? kind.name = some kind := by
  cases kind <;> rfl

theorem Treatment.ofName?_name (treatment : Treatment) :
    ofName? treatment.name = some treatment := by
  cases treatment <;> rfl

theorem Level.ofName?_name (level : Level) : ofName? level.name = some level := by
  cases level <;> rfl

/-- Whether an outcome of a name is a success. -/
def AuditOutcome.isSuccess? (name : String) : Option Bool :=
  if name = "CONVERTED" then some true else if name = "REJECTED" then some false else none

/-- The location that a report tells. -/
def Location.ofReport? (report : Json) : Option Location := do
  let members ← report.membersAmong? ["step", "arg"]
  let step ← (Json.member? members "step").bind Json.count?
  let arg ← (Json.member? members "arg").mapM Json.count?
  return ⟨step, arg⟩

theorem Location.ofReport?_report (location : Location) :
    ofReport? location.report = some location := by
  obtain ⟨step, arg⟩ := location
  cases arg with
  | none =>
      simp [ofReport?, report, optionalMember, Json.membersAmong?, Json.member?, Json.count?_count]
  | some arg =>
      simp [ofReport?, report, optionalMember, Json.membersAmong?, Json.member?, Json.count?_count]

/-! ## What a log tells -/

/-- What an audit log tells about a finding. -/
structure LoggedFinding where
  kind : FindingKind
  ruleId : Option String
  treatment : Treatment
  location : Location
  preview : String

/-- What an audit log tells about a conversion. -/
structure LoggedEntry where
  time : String
  succeeded : Bool
  source : String
  level : Level
  findings : List LoggedFinding
  /-- The wording of the failure of a conversion that failed. -/
  error : Option String

/-- What is told about a finding. -/
def Finding.logged (finding : Finding) : LoggedFinding where
  kind := finding.kind
  ruleId := finding.ruleId
  treatment := finding.treatment
  location := finding.location
  preview := finding.preview

/-- What is told about a conversion. -/
def AuditEntry.logged (time : String) (entry : AuditEntry) : LoggedEntry where
  time := time
  succeeded := entry.outcome.failure?.isNone
  source := entry.source
  level := entry.level
  findings := entry.outcome.findings.map Finding.logged
  error := entry.outcome.failure?.map Failure.message

/-- What a report tells about a finding. -/
def LoggedFinding.ofReport? (report : Json) : Option LoggedFinding := do
  let members ← report.membersAmong? ["kind", "rule_id", "action", "location", "preview"]
  let kind ← (Json.member? members "kind").bind Json.text?
  let ruleId ← (Json.member? members "rule_id").mapM Json.text?
  let treatment ← (Json.member? members "action").bind Json.text?
  let location ← (Json.member? members "location").bind Location.ofReport?
  let preview ← (Json.member? members "preview").bind Json.text?
  return {
    kind := ← FindingKind.ofName? kind
    ruleId := ruleId
    treatment := ← Treatment.ofName? treatment
    location := location
    preview := preview }

/-- What a document tells about a conversion. -/
def LoggedEntry.ofJson? (document : Json) : Option LoggedEntry := do
  let members ← document.membersAmong?
    ["timestamp", "outcome", "source", "security_level", "findings", "error"]
  let time ← (Json.member? members "timestamp").bind Json.text?
  let outcome ← (Json.member? members "outcome").bind Json.text?
  let source ← (Json.member? members "source").bind Json.text?
  let level ← (Json.member? members "security_level").bind Json.text?
  let reports ← (Json.member? members "findings").bind Json.items?
  let error ← (Json.member? members "error").mapM Json.text?
  return {
    time := time
    succeeded := ← AuditOutcome.isSuccess? outcome
    source := source
    level := ← Level.ofName? level
    findings := ← reports.mapM LoggedFinding.ofReport?
    error := error }

theorem LoggedFinding.ofReport?_auditReport (finding : Finding) :
    ofReport? finding.auditReport = some finding.logged := by
  cases isRule : finding.ruleId with
  | none =>
      simp [ofReport?, Finding.auditReport, Finding.logged, optionalMember, Json.membersAmong?,
        Json.member?, Json.text?, isRule, FindingKind.ofName?_name, Treatment.ofName?_name,
        Location.ofReport?_report]
  | some rule =>
      simp [ofReport?, Finding.auditReport, Finding.logged, optionalMember, Json.membersAmong?,
        Json.member?, Json.text?, isRule, FindingKind.ofName?_name, Treatment.ofName?_name,
        Location.ofReport?_report]

theorem LoggedEntry.ofJson?_json (time : String) (entry : AuditEntry) :
    ofJson? (entry.json time) = some (entry.logged time) := by
  have reports (findings : List Finding) :
      (findings.map Finding.auditReport).mapM LoggedFinding.ofReport? =
        some (findings.map Finding.logged) := by
    induction findings with
    | nil => rfl
    | cons finding rest ih =>
        simp [LoggedFinding.ofReport?_auditReport, ih]
  cases isOutcome : entry.outcome with
  | converted findings =>
      simp [ofJson?, AuditEntry.json, AuditEntry.logged, AuditOutcome.name, AuditOutcome.findings,
        AuditOutcome.failure?, AuditOutcome.isSuccess?, optionalMember, Json.membersAmong?,
        Json.member?, Json.text?, Json.items?, isOutcome, Level.ofName?_name, reports]
  | rejected failure =>
      simp [ofJson?, AuditEntry.json, AuditEntry.logged, AuditOutcome.name, AuditOutcome.findings,
        AuditOutcome.failure?, AuditOutcome.isSuccess?, optionalMember, Json.membersAmong?,
        Json.member?, Json.text?, Json.items?, isOutcome, Level.ofName?_name]

/-! ## Lines -/

/-- Whether the indices of a location are numbers of 64 bits. -/
def Location.Fits (location : Location) : Prop :=
  location.step < Json.countLimit ∧ ∀ arg ∈ location.arg, arg < Json.countLimit

/-- Whether the indices in an entry are numbers of 64 bits. -/
def AuditEntry.Fits (entry : AuditEntry) : Prop :=
  ∀ finding ∈ entry.outcome.findings, finding.location.Fits

instance (location : Location) : Decidable location.Fits :=
  inferInstanceAs (Decidable (_ ∧ _))

instance (entry : AuditEntry) : Decidable entry.Fits :=
  inferInstanceAs (Decidable (∀ finding ∈ entry.outcome.findings, finding.location.Fits))

theorem Location.Fits.readable {location : Location} (fits : location.Fits) (depth : Nat) :
    Json.Readable (depth + 1) location.report := by
  apply Json.Readable.object
  rw [List.forall_mem_cons]
  exact ⟨.count fits.1, optionalMember_readable (fun arg isArg => .count (fits.2 arg isArg)) _⟩

theorem Finding.auditReport_readable {finding : Finding} (fits : finding.location.Fits)
    (depth : Nat) : Json.Readable (depth + 2) finding.auditReport := by
  have location := fits.readable depth
  apply Json.Readable.object
  simp only [List.cons_append, List.forall_mem_cons, List.forall_mem_append]
  exact ⟨.string _, optionalMember_readable (fun rule _ => .string rule) _, .string _, location,
    .string _, nofun⟩

theorem AuditEntry.json_readable {entry : AuditEntry} (fits : entry.Fits) (time : String) :
    Json.Readable Json.nestingLimit (entry.json time) := by
  have findings : Json.Readable (123 + 3)
      (.array (entry.outcome.findings.map Finding.auditReport)) := by
    apply Json.Readable.array
    intro report member
    obtain ⟨finding, listed, rfl⟩ := List.mem_map.mp member
    exact Finding.auditReport_readable (fits finding listed) 123
  apply Json.Readable.object
  simp only [List.cons_append, List.nil_append, List.forall_mem_cons]
  exact ⟨.string _, .string _, .string _, .string _, findings,
    optionalMember_readable (fun failure _ => .string failure.message) _⟩

/-- Whether a text tells what was recorded of a conversion, and nothing else. -/
structure AuditEntry.Tells (time : String) (entry : AuditEntry) (text : String) : Prop where
  /-- The text has neither line feeds nor other control characters below the space. -/
  printed : Json.Printed text.toList
  /-- What was recorded is read back, from a document without any other members. -/
  readsBack : ∃ document, Json.ofText? text = .ok document ∧
    LoggedEntry.ofJson? document = some (entry.logged time)
  /-- Entries of which the same is told have the same text. -/
  withheld : ∀ other : AuditEntry, other.logged time = entry.logged time →
    (other.json time).compact = text

theorem Finding.auditReport_eq {first second : Finding} (same : first.logged = second.logged) :
    first.auditReport = second.auditReport := by
  simp only [logged, LoggedFinding.mk.injEq] at same
  obtain ⟨kind, ruleId, treatment, location, preview⟩ := same
  simp only [auditReport, kind, ruleId, treatment, location, preview]

theorem map_auditReport_eq {first second : List Finding}
    (same : first.map Finding.logged = second.map Finding.logged) :
    first.map Finding.auditReport = second.map Finding.auditReport := by
  induction first generalizing second with
  | nil => rw [List.map_eq_nil_iff.mp same.symm]
  | cons finding rest ih =>
      cases second with
      | nil => cases same
      | cons other more =>
          obtain ⟨here, later⟩ := List.cons.inj same
          rw [List.map_cons, List.map_cons, Finding.auditReport_eq here, ih later]

theorem AuditOutcome.name_eq (outcome : AuditOutcome) :
    outcome.name = if outcome.failure?.isNone then "CONVERTED" else "REJECTED" := by
  cases outcome <;> rfl

/-- The document of an entry depends on nothing that is not told about it. -/
theorem AuditEntry.json_eq {time : String} {first second : AuditEntry}
    (same : first.logged time = second.logged time) : first.json time = second.json time := by
  simp only [logged, LoggedEntry.mk.injEq, true_and] at same
  obtain ⟨succeeded, source, level, findings, error⟩ := same
  have texts (entry : AuditEntry) :
      (entry.outcome.failure?.map fun failure => Json.string failure.message) =
        (entry.outcome.failure?.map Failure.message).map Json.string := by
    rw [Option.map_map]
    rfl
  simp only [json, AuditOutcome.name_eq, texts, succeeded, source, level, error,
    map_auditReport_eq findings]

/-- The text of an entry tells what was recorded, and nothing else. -/
theorem AuditEntry.tells_compact {entry : AuditEntry} (fits : entry.Fits) (time : String) :
    entry.Tells time (entry.json time).compact where
  printed := by
    rw [Json.compact, String.toList_ofList]
    exact (json_readable fits time).printed
  readsBack := ⟨entry.json time, Json.ofText?_compact (json_readable fits time),
    LoggedEntry.ofJson?_json time entry⟩
  withheld other same := congrArg Json.compact (json_eq same)

end ScreenedSuite
