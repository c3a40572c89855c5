import Mathlib.Data.List.Forall2
import ScreenedSuite.ActionTable.Builtin
import ScreenedSuite.AuditLog
import ScreenedSuite.Proofs.Screening.Steps
import ScreenedSuite.Suite

/-! # Withheld values leave no trace

Two test cases that differ only in flagged arguments, and there only in what a preview hides, are
converted alike (`ScreenedSuite.Screening.convert_agree`): both fail with the same failure, or both
give the same suite, and findings that no report, summary or record tells apart.
-/

namespace ScreenedSuite

/-- Two values that the same pattern flags and that have the same preview. -/
structure Screening.MaskedAlike (screening : Screening) (kind : ListKind) (first second : String) :
    Prop where
  flagged : ∃ entry, screening.catalog.flag? screening.level kind first = some entry ∧
    screening.catalog.flag? screening.level kind second = some entry
  sameLength : first.length = second.length
  sameStart : 8 < first.length → first.toList.take 3 = second.toList.take 3

/-- Two steps that differ at most in flagged arguments of the same look. -/
structure Screening.StepsAlike (screening : Screening) (first second : Step) : Prop where
  action : first.action = second.action
  count : first.args.length = second.args.length
  args : ∀ position left right, first.args[position]? = some left →
    second.args[position]? = some right → left = right ∨
      ∃ template role kind, screening.actions.get? first.action = some template ∧
        template.roleAt position = some role ∧ role.screenedBy = some kind ∧
          screening.MaskedAlike kind left right

/-- Two test cases that differ at most in flagged arguments of the same look. -/
structure Screening.CasesAlike (screening : Screening) (first second : TestCase) : Prop where
  name : first.name = second.name
  documentation : first.documentation = second.documentation
  tags : first.tags = second.tags
  steps : List.Forall₂ screening.StepsAlike first.steps second.steps

/-- Two findings that differ at most in the value, and neither by their preview nor in one line. -/
structure Finding.ShownAlike (first second : Finding) : Prop where
  rest : { first with value := second.value } = second
  preview : first.preview = second.preview
  summary : first.summary = second.summary

/-- Two conversions that are written, reported and recorded alike. -/
structure Conversion.ShownAlike (first second : Conversion) : Prop where
  name : first.name = second.name
  documentation : first.documentation = second.documentation
  tags : first.tags = second.tags
  statements : first.statements = second.statements
  text : ∀ width, Suite.render width first = Suite.render width second
  findings : List.Forall₂ (fun left right => { left with value := right.value } = right)
    first.findings second.findings
  report : Finding.reportText first.findings = Finding.reportText second.findings
  summaries : first.findings.map Finding.summary = second.findings.map Finding.summary
  record : ∀ source level time,
    AuditEntry.line time ⟨source, level, .converted first.findings⟩ =
      AuditEntry.line time ⟨source, level, .converted second.findings⟩

namespace Finding

variable {first second : Finding}

theorem ShownAlike.refl (finding : Finding) : finding.ShownAlike finding :=
  ⟨rfl, rfl, rfl⟩

/-- A report shows a value only by its preview. -/
theorem ShownAlike.report_eq (alike : first.ShownAlike second) : first.report = second.report := by
  obtain ⟨rest, preview, _⟩ := alike
  unfold report
  rw [preview, ← rest]

theorem ShownAlike.auditReport_eq (alike : first.ShownAlike second) :
    first.auditReport = second.auditReport := by
  obtain ⟨rest, preview, _⟩ := alike
  unfold auditReport
  rw [preview, ← rest]

/-- Findings that are shown alike one by one agree in all that is shown of them. -/
theorem map_eq_of_shownAlike {α : Type} {shown : Finding → α} {left right : List Finding}
    (alike : List.Forall₂ ShownAlike left right)
    (same : ∀ {a b : Finding}, a.ShownAlike b → shown a = shown b) :
    left.map shown = right.map shown := by
  induction alike with
  | nil => rfl
  | cons head _ ih => rw [List.map_cons, List.map_cons, same head, ih]

end Finding

namespace Screening

variable {screening : Screening}

/-- Values with the same number of characters and the same beginning have one preview. -/
theorem MaskedAlike.preview_eq {kind : ListKind} {first second : String}
    (alike : screening.MaskedAlike kind first second) : preview first = preview second := by
  have sameLength : first.toList.length = second.toList.length := by
    rw [String.length_toList, String.length_toList, alike.sameLength]
  unfold preview
  by_cases short : second.toList.length ≤ maskedLength
  · simp only [sameLength, short, ↓reduceIte]
  · have sameStart : first.toList.take shownChars = second.toList.take shownChars := by
      apply alike.sameStart
      rw [← String.length_toList, sameLength]
      exact Nat.lt_of_not_le short
    simp only [sameLength, short, ↓reduceIte, sameStart]

theorem MaskedAlike.judge_eq {role : Role} {kind : ListKind} {first second : String}
    (screened : role.screenedBy = some kind) (alike : screening.MaskedAlike kind first second) :
    ∃ entry, screening.judge role first = .flagged kind entry ∧
      screening.judge role second = .flagged kind entry := by
  obtain ⟨entry, firstFlagged, secondFlagged⟩ := alike.flagged
  refine ⟨entry, ?_, ?_⟩
  · simp only [judge, screened, Catalog.classify, firstFlagged]
  · simp only [judge, screened, Catalog.classify, secondFlagged]

theorem flaggedFinding_shownAlike {first second : String} (kind : FindingKind) (entry : Entry)
    (location : Location) (same : preview first = preview second) :
    (flaggedFinding kind entry first location).ShownAlike
      (flaggedFinding kind entry second location) :=
  ⟨rfl, same, rfl⟩

/-- What screening yields for two arguments that look alike. -/
abbrev ScreenedAlike (first second : Token × Option Finding) : Prop :=
  first.1 = second.1 ∧ List.Forall₂ Finding.ShownAlike first.2.toList second.2.toList

/-- Arguments that look alike are screened alike. -/
theorem screen_agree {role : Role} {first second : String} (location : Location)
    (alike : first = second ∨
      ∃ kind, role.screenedBy = some kind ∧ screening.MaskedAlike kind first second) :
    Outcome.Agree ScreenedAlike (screening.screen role first location)
      (screening.screen role second location) := by
  rcases alike with rfl | ⟨kind, screened, alike⟩
  · cases screening.screen role first location with
    | error failure => exact .error failure
    | ok yielded => exact .ok ⟨rfl, List.forall₂_same.mpr fun finding _ => .refl finding⟩
  · obtain ⟨entry, firstJudged, secondJudged⟩ := alike.judge_eq screened
    have recorded (finding : FindingKind) :
        ScreenedAlike (Token.redacted, some (flaggedFinding finding entry first location))
          (Token.redacted, some (flaggedFinding finding entry second location)) :=
      ⟨rfl, .cons (flaggedFinding_shownAlike finding entry location alike.preview_eq) .nil⟩
    unfold screen
    rw [firstJudged, secondJudged]
    cases kind with
    | path => exact .ok (recorded .sensitive)
    | command =>
        cases screening.level with
        | permissive => exact .ok (recorded .dangerous)
        | standard => exact .ok (recorded .dangerous)
        | strict =>
            simp only [Classification.flagged, alike.preview_eq]
            exact .error _

/-- What screening yields for the arguments of two steps that look alike. -/
abbrev ArgumentsAlike (first second : List Token × List Finding) : Prop :=
  first.1 = second.1 ∧ List.Forall₂ Finding.ShownAlike first.2 second.2

theorem screenFrom_agree {template : Template} {step index : Nat} {first second : List String}
    (count : first.length = second.length)
    (alike : ∀ position left right, first[position]? = some left →
      second[position]? = some right → left = right ∨
        ∃ kind, (template.roleFor (index + position)).screenedBy = some kind ∧
          screening.MaskedAlike kind left right) :
    Outcome.Agree ArgumentsAlike (screening.screenFrom template step index first)
      (screening.screenFrom template step index second) := by
  induction first generalizing index second with
  | nil =>
      cases List.length_eq_zero_iff.mp count.symm
      exact .ok ⟨rfl, .nil⟩
  | cons value rest ih =>
      cases second with
      | nil => cases count
      | cons other others =>
          unfold screenFrom
          refine (screen_agree ⟨step, some index⟩ (alike 0 value other rfl rfl)).bind ?_
          rintro ⟨token, finding⟩ ⟨_, otherFinding⟩ ⟨rfl, recorded⟩
          have restAgree : Outcome.Agree ArgumentsAlike
              (screening.screenFrom template step (index + 1) rest)
              (screening.screenFrom template step (index + 1) others) := by
            refine ih (Nat.succ.inj count) fun position left right leftFound rightFound => ?_
            have here := alike (position + 1) left right leftFound rightFound
            rwa [Nat.add_right_comm, Nat.add_assoc]
          refine restAgree.bind ?_
          rintro ⟨tokens, findings⟩ ⟨_, otherFindings⟩ ⟨rfl, restRecorded⟩
          exact .ok ⟨rfl, List.rel_append recorded restRecorded⟩

/-- What two steps that look alike yield. -/
abbrev PiecesAlike (first second : Piece) : Prop :=
  first.statements = second.statements ∧
    List.Forall₂ Finding.ShownAlike first.findings second.findings

/-- Without a template there is nothing that two steps that look alike could differ in. -/
theorem StepsAlike.eq_of_unmapped {first second : Step}
    (alike : screening.StepsAlike first second)
    (unmapped : screening.actions.get? first.action = none) : first = second := by
  have args : first.args = second.args := by
    apply List.ext_getElem? fun position => ?_
    by_cases inside : position < first.args.length
    · have otherInside : position < second.args.length := alike.count ▸ inside
      rw [List.getElem?_eq_getElem inside, List.getElem?_eq_getElem otherInside]
      rcases alike.args position _ _ (List.getElem?_eq_getElem inside)
        (List.getElem?_eq_getElem otherInside) with same | ⟨template, _, _, found, _⟩
      · rw [same]
      · cases unmapped.symm.trans found
    · have otherOutside : ¬ position < second.args.length := alike.count ▸ inside
      rw [List.getElem?_eq_none (Nat.le_of_not_lt inside),
        List.getElem?_eq_none (Nat.le_of_not_lt otherOutside)]
  cases first
  cases second
  cases alike.action
  cases args
  rfl

/-- Steps that look alike are converted alike. -/
theorem convertStep_agree {first second : Step} (index : Nat)
    (alike : screening.StepsAlike first second) :
    Outcome.Agree PiecesAlike (screening.convertStep index first)
      (screening.convertStep index second) := by
  cases found : screening.actions.get? first.action with
  | none =>
      cases alike.eq_of_unmapped found
      cases screening.convertStep index first with
      | error failure => exact .error failure
      | ok piece => exact .ok ⟨rfl, List.forall₂_same.mpr fun finding _ => .refl finding⟩
  | some template =>
      simp only [convertStep, ← alike.action, found, convertMapped, ← alike.count]
      by_cases admitted : template.arity.admits first.args.length = true
      · simp only [admitted, ↓reduceIte]
        refine (screenFrom_agree alike.count ?_).bind ?_
        · intro position left right leftFound rightFound
          rcases alike.args position left right leftFound rightFound with
            same | ⟨other, role, kind, otherFound, known, screened, masked⟩
          · exact .inl same
          · cases found.symm.trans otherFound
            refine .inr ⟨kind, ?_, masked⟩
            rwa [Nat.zero_add, Template.roleFor, known, Option.getD_some]
        · rintro ⟨tokens, findings⟩ ⟨_, otherFindings⟩ ⟨rfl, recorded⟩
          exact .ok ⟨rfl, recorded⟩
      · simp only [admitted, Bool.false_eq_true, ↓reduceIte]
        exact .error _

theorem convertFrom_agree {index : Nat} {first second : List Step}
    (alike : List.Forall₂ screening.StepsAlike first second) :
    Outcome.Agree PiecesAlike (screening.convertFrom index first)
      (screening.convertFrom index second) := by
  induction alike generalizing index with
  | nil => exact .ok ⟨rfl, .nil⟩
  | cons head _ ih =>
      unfold convertFrom
      refine (convertStep_agree index head).bind ?_
      rintro ⟨statements, findings⟩ ⟨_, otherFindings⟩ ⟨rfl, recorded⟩
      refine ih.bind ?_
      rintro ⟨restStatements, restFindings⟩ ⟨_, restOtherFindings⟩ ⟨rfl, restRecorded⟩
      exact .ok ⟨rfl, List.rel_append recorded restRecorded⟩

/-- **Withheld values leave no trace.** Test cases that look alike fail with the same failure, or
are converted to suites, reports, summaries and records that are the same. -/
theorem convert_agree {first second : TestCase} (alike : screening.CasesAlike first second) :
    Outcome.Agree Conversion.ShownAlike (screening.convert first) (screening.convert second) := by
  unfold convert
  refine (convertFrom_agree alike.steps).bind ?_
  rintro ⟨statements, findings⟩ ⟨_, otherFindings⟩ ⟨rfl, recorded⟩
  have sameReports := Finding.map_eq_of_shownAlike recorded Finding.ShownAlike.report_eq
  have sameRecords := Finding.map_eq_of_shownAlike recorded Finding.ShownAlike.auditReport_eq
  refine .ok {
    name := alike.name
    documentation := alike.documentation
    tags := alike.tags
    statements := rfl
    text := ?_
    findings := recorded.imp fun _ _ shown => shown.rest
    report := ?_
    summaries := Finding.map_eq_of_shownAlike recorded Finding.ShownAlike.summary
    record := ?_ }
  · intro width
    simp only [Suite.render, Suite.lines, Suite.rows, alike.name, alike.documentation, alike.tags]
  · simp only [Finding.reportText, sameReports]
  · intro source level time
    simp only [AuditEntry.line, AuditEntry.json, AuditOutcome.findings, AuditOutcome.name,
      AuditOutcome.failure?, sameRecords]

/-- The private keys of two users look alike. -/
theorem convert_agree_private_keys :
    let screening : Screening := ⟨.builtin, .builtin, .reject, .standard⟩
    let first : TestCase := { name := "key", steps := [⟨"read_file", ["/home/ann/.ssh/id_rsa"]⟩] }
    let second : TestCase := { name := "key", steps := [⟨"read_file", ["/home/bob/.ssh/id_rsa"]⟩] }
    screening.CasesAlike first second ∧
      Outcome.Agree Conversion.ShownAlike (screening.convert first) (screening.convert second) := by
  intro screening first second
  have masked : screening.MaskedAlike .path "/home/ann/.ssh/id_rsa" "/home/bob/.ssh/id_rsa" := {
    flagged := ⟨⟨"ssh-private-key", r"\.ssh/id_(rsa|ed25519|ecdsa|dsa)$", "SSH private key file"⟩,
      by decide +kernel, by decide +kernel⟩
    sameLength := by decide +kernel
    sameStart := by decide +kernel }
  have alike : screening.CasesAlike first second := by
    refine ⟨rfl, rfl, rfl, .cons ⟨rfl, rfl, ?_⟩ .nil⟩
    intro position left right leftFound rightFound
    cases position with
    | zero =>
        cases leftFound
        cases rightFound
        refine .inr ⟨{ ActionTable.fileKeyword "Get File" [.path] with
          assign := some r"${content}" }, .path, .path, ?_, rfl, rfl, masked⟩
        decide +kernel
    | succ position => cases leftFound
  exact ⟨alike, convert_agree alike⟩

end Screening

end ScreenedSuite
