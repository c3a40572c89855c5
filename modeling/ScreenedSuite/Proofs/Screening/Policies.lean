import Mathlib.Data.List.Flatten
import Mathlib.Data.List.Forall2
import ScreenedSuite.ActionTable.Builtin
import ScreenedSuite.Proofs.Screening.Steps

/-! # The two policies for unmapped actions

The policies differ in nothing but what becomes of a step without a template. Up to the first such
step two conversions under them go the same way, and there the one that rejects ends
(`ScreenedSuite.Screening.convert_policies_agree`).
-/

namespace ScreenedSuite.Screening

/-- The screening with another policy for unmapped actions. -/
def under (screening : Screening) (policy : UnmappedPolicy) : Screening :=
  { screening with unmapped := policy }

/-- What the steps of a test case yield one by one. -/
def Yields (screening : Screening) (case : TestCase) (pieces : List Piece) : Prop :=
  List.Forall₂ (fun step piece => screening.convertStep step.2 step.1 = .ok piece)
    case.steps.zipIdx pieces

variable {screening : Screening} {step : Step}

/-! ## Steps under the two policies -/

theorem accepts_under_reject_iff :
    (screening.under .reject).Accepts step ↔
      (screening.under .passthrough).Accepts step ∧ screening.actions.get? step.action ≠ none := by
  unfold Accepts
  simp only [under]
  cases screening.actions.get? step.action with
  | none => simp only [reduceCtorEq, ne_eq, not_true_eq_false, and_false]
  | some template =>
      simp only [ne_eq, reduceCtorEq, not_false_eq_true, and_true]
      exact Iff.rfl

theorem accepts_under_passthrough_of_absent (absent : screening.actions.get? step.action = none) :
    (screening.under .passthrough).Accepts step := by
  simp only [Accepts, under, absent]

/-- A step with a template is converted alike under every policy. -/
theorem convertStep_under_of_present (policy : UnmappedPolicy) (index : Nat)
    (present : screening.actions.get? step.action ≠ none) :
    (screening.under policy).convertStep index step = screening.convertStep index step := by
  obtain ⟨template, found⟩ := Option.ne_none_iff_exists'.mp present
  have sameActions : (screening.under policy).actions = screening.actions := rfl
  have screened := @screenFrom_congr (screening.under policy) screening rfl rfl
  simp only [convertStep, sameActions, found, convertMapped, screened]

theorem convertStep_under_passthrough_of_absent (index : Nat)
    (absent : screening.actions.get? step.action = none) :
    (screening.under .passthrough).convertStep index step =
      .ok ⟨[commentStatement step], [unmappedFinding step index]⟩ := by
  simp only [convertStep, under, absent, convertUnmapped]

theorem convertStep_under_reject_eq_unsupported_iff {index other : Nat} {action : String} :
    (screening.under .reject).convertStep index step = .error (.unsupportedAction action other) ↔
      screening.actions.get? step.action = none ∧ action = step.action ∧ other = index := by
  cases found : screening.actions.get? step.action with
  | none =>
      simp only [convertStep, under, found, convertUnmapped, Except.error.injEq,
        Failure.unsupportedAction.injEq, true_and]
      exact and_congr eq_comm eq_comm
  | some template =>
      simp only [reduceCtorEq, false_and, iff_false, convertStep, under, found]
      intro failed
      rcases convertMapped_eq_error_iff.mp failed with ⟨_, refused⟩ | ⟨_, unsupported⟩
      · obtain ⟨_, _, _, ⟨_, _, _, violation⟩, _⟩ := screenFrom_eq_error_iff.mp refused
        cases violation
      · cases unsupported

/-- The findings about a step tell that it is unmapped just when it is. -/
theorem kind_of_mem_findingsFor {index : Nat} {finding : Finding}
    (member : finding ∈ screening.findingsFor index step) :
    finding.kind = .unmapped ↔ screening.actions.get? step.action = none := by
  unfold findingsFor at member
  cases found : screening.actions.get? step.action with
  | none =>
      simp only [found, List.mem_singleton] at member
      simp only [member, unmappedFinding]
  | some template =>
      simp only [found, List.mem_flatMap, Option.mem_toList] at member
      obtain ⟨argument, _, recorded⟩ := member
      simp only [reduceCtorEq, iff_false]
      unfold findingFor? at recorded
      split at recorded
      · cases recorded
      · cases recorded
        exact FindingKind.noConfusion
      · cases recorded
        exact FindingKind.noConfusion

/-! ## Conversions under the two policies -/

/-- What the accepted steps of a test case become depends on no policy. -/
theorem converted_under (policy : UnmappedPolicy) (case : TestCase) :
    (screening.under policy).converted case = screening.converted case :=
  rfl

theorem forall_kind_ne_unmapped_iff {case : TestCase} :
    (∀ finding ∈ (screening.converted case).findings, finding.kind ≠ .unmapped) ↔
      ∀ step ∈ case.steps, screening.actions.get? step.action ≠ none := by
  simp only [converted, List.mem_flatMap]
  constructor
  · intro mapped step member absent
    obtain ⟨index, there⟩ := List.mem_iff_getElem?.mp member
    have listed := List.mk_mem_zipIdx_iff_getElem?.mpr there
    refine mapped (unmappedFinding step index) ⟨_, listed, ?_⟩ rfl
    simp only [findingsFor, absent, List.mem_singleton]
  · rintro present finding ⟨⟨step, index⟩, listed, recorded⟩ unmapped
    have member := List.mem_of_getElem? (List.mk_mem_zipIdx_iff_getElem?.mp listed)
    exact present step member ((kind_of_mem_findingsFor recorded).mp unmapped)

/-- Rejecting converts what passing through converts without coming upon an unmapped action. -/
theorem convert_under_reject_eq_ok_iff {case : TestCase} {conversion : Conversion} :
    (screening.under .reject).convert case = .ok conversion ↔
      (screening.under .passthrough).convert case = .ok conversion ∧
        ∀ finding ∈ conversion.findings, finding.kind ≠ .unmapped := by
  simp only [convert_eq_ok_iff, converted_under, accepts_under_reject_iff]
  constructor
  · rintro ⟨accepted, rfl⟩
    refine ⟨⟨fun step member => (accepted step member).1, rfl⟩, ?_⟩
    exact forall_kind_ne_unmapped_iff.mpr fun step member => (accepted step member).2
  · rintro ⟨⟨accepted, rfl⟩, mapped⟩
    have present := forall_kind_ne_unmapped_iff.mp mapped
    exact ⟨fun step member => ⟨accepted step member, present step member⟩, rfl⟩

theorem find?_kind_eq_none {steps : List Step} {start : Nat}
    (present : ∀ step ∈ steps, screening.actions.get? step.action ≠ none) :
    ((steps.zipIdx start).flatMap fun step => screening.findingsFor step.2 step.1).find?
      (·.kind == .unmapped) = none := by
  rw [List.find?_eq_none]
  rintro finding listed unmapped
  obtain ⟨⟨step, index⟩, member, recorded⟩ := List.mem_flatMap.mp listed
  have absent := (kind_of_mem_findingsFor recorded).mp (by simpa using unmapped)
  exact present step (List.fst_mem_of_mem_zipIdx member) absent

/-- The first unmapped finding is about the first step without a template. -/
theorem find?_kind_converted {case : TestCase} {position : Nat}
    (here : case.steps[position]? = some step)
    (absent : screening.actions.get? step.action = none)
    (before : ∀ earlier ∈ case.steps.take position,
      screening.actions.get? earlier.action ≠ none) :
    (screening.converted case).findings.find? (·.kind == .unmapped) =
      some (unmappedFinding step position) := by
  obtain ⟨inside, isStep⟩ := List.getElem?_eq_some_iff.mp here
  have split : case.steps = case.steps.take position ++ step :: case.steps.drop (position + 1) := by
    rw [← isStep, List.getElem_cons_drop, List.take_append_drop]
  have length : (case.steps.take position).length = position :=
    List.length_take_of_le (Nat.le_of_lt inside)
  have first : screening.findingsFor position step = [unmappedFinding step position] := by
    simp only [findingsFor, absent]
  simp only [converted]
  rw [split, List.zipIdx_append, List.flatMap_append, List.find?_append, find?_kind_eq_none before,
    Option.none_or, List.zipIdx_cons, List.flatMap_cons, length, Nat.zero_add, first]
  rfl

/-- Where rejecting stops, every step before has a template and is accepted when passing through. -/
theorem StopsAt.before_under {case : TestCase} {position : Nat} {failure : Failure}
    (stops : (screening.under .reject).StopsAt case position failure) :
    (∀ earlier ∈ case.steps.take position, (screening.under .passthrough).Accepts earlier) ∧
      ∀ earlier ∈ case.steps.take position, screening.actions.get? earlier.action ≠ none :=
  ⟨fun earlier member => (accepts_under_reject_iff.mp (stops.before earlier member)).1,
    fun earlier member => (accepts_under_reject_iff.mp (stops.before earlier member)).2⟩

/-- Rejecting stops at a step with a template as passing through does. -/
theorem convert_under_passthrough_of_error {case : TestCase} {failure : Failure}
    (failed : (screening.under .reject).convert case = .error failure)
    (other : ∀ action index, failure ≠ .unsupportedAction action index) :
    (screening.under .passthrough).convert case = .error failure := by
  obtain ⟨position, stops⟩ := convert_eq_error_iff.mp failed
  obtain ⟨step, here, stepFailed⟩ := stops.failing
  have present : screening.actions.get? step.action ≠ none := by
    intro absent
    have unsupported : (screening.under .reject).convertStep position step =
        .error (.unsupportedAction step.action position) :=
      convertStep_under_reject_eq_unsupported_iff.mpr ⟨absent, rfl, rfl⟩
    exact other _ _ (Except.error.inj (stepFailed.symm.trans unsupported))
  refine convert_eq_error_iff.mpr ⟨position, ⟨step, here, ?_⟩, stops.before_under.1⟩
  rw [convertStep_under_of_present _ position present] at stepFailed ⊢
  exact stepFailed

/-- Where rejecting stops at an unmapped action, passing through goes on. -/
theorem convert_under_passthrough_of_unsupported {case : TestCase} {action : String} {index : Nat}
    (failed : (screening.under .reject).convert case = .error (.unsupportedAction action index)) :
    (∃ failure later, (screening.under .passthrough).convert case = .error failure ∧
      failure.step? = some later ∧ index < later) ∨
    ∃ conversion, (screening.under .passthrough).convert case = .ok conversion ∧
      conversion.findings.find? (·.kind == .unmapped) =
        some ⟨.unmapped, none, none, action, .passthrough, ⟨index, none⟩⟩ := by
  obtain ⟨position, stops⟩ := convert_eq_error_iff.mp failed
  obtain ⟨step, here, stepFailed⟩ := stops.failing
  obtain ⟨absent, rfl, rfl⟩ := convertStep_under_reject_eq_unsupported_iff.mp stepFailed
  obtain ⟨accepted, present⟩ := stops.before_under
  cases outcome : (screening.under .passthrough).convert case with
  | ok conversion =>
      obtain ⟨_, rfl⟩ := convert_eq_ok_iff.mp outcome
      exact .inr ⟨_, rfl, find?_kind_converted here absent present⟩
  | error failure =>
      obtain ⟨later, laterStops⟩ := convert_eq_error_iff.mp outcome
      refine .inl ⟨failure, later, rfl, laterStops.step?_eq, Nat.lt_of_not_le fun early => ?_⟩
      obtain ⟨other, there, otherFailed⟩ := laterStops.failing
      apply not_accepts_of_convertStep_eq_error otherFailed
      rcases Nat.lt_or_eq_of_le early with earlier | rfl
      · exact accepted other (List.mem_of_getElem? (by rwa [List.getElem?_take_of_lt earlier]))
      · obtain rfl : other = step := Option.some.inj (there.symm.trans here)
        exact accepts_under_passthrough_of_absent absent

/-- A conversion is put together from what its steps yield. -/
theorem exists_yields_of_convert_eq_ok {case : TestCase} {conversion : Conversion}
    (done : screening.convert case = .ok conversion) :
    ∃ pieces, screening.Yields case pieces ∧
      conversion.statements = pieces.flatMap Piece.statements ∧
        conversion.findings = pieces.flatMap Piece.findings := by
  obtain ⟨accepted, rfl⟩ := convert_eq_ok_iff.mp done
  let pieceFor (step : Step × Nat) : Piece :=
    ⟨screening.statementsFor step.1, screening.findingsFor step.2 step.1⟩
  refine ⟨case.steps.zipIdx.map pieceFor, ?_, ?_, ?_⟩
  · rw [Yields, List.forall₂_map_right_iff, List.forall₂_same]
    intro step member
    exact convertStep_eq_ok_iff.mpr ⟨accepted step.1 (List.fst_mem_of_mem_zipIdx member), rfl⟩
  · simp only [converted, List.flatMap_map, pieceFor]
    conv_lhs => rw [← List.zipIdx_map_fst 0 case.steps, List.flatMap_map]
  · simp only [converted, List.flatMap_map, pieceFor]

/-- **The policies agree wherever both apply.** Rejecting converts a test case exactly if passing
through converts it without an unmapped finding, and to the same result. Where rejecting fails at an
unmapped action, passing through fails at a later step, or converts with its first unmapped finding
there; every other failure of rejecting is also that of passing through. A conversion that passes
unmapped steps through is put together from what its steps yield, which for such a step is one
comment that names the action and holds the arguments as they are. -/
theorem convert_policies_agree (screening : Screening) :
    let rejecting := screening.under .reject
    let passing := screening.under .passthrough
    (∀ case conversion, rejecting.convert case = .ok conversion ↔
      passing.convert case = .ok conversion ∧
        ∀ finding ∈ conversion.findings, finding.kind ≠ .unmapped) ∧
    (∀ case action index, rejecting.convert case = .error (.unsupportedAction action index) →
      (∃ failure later, passing.convert case = .error failure ∧
        failure.step? = some later ∧ index < later) ∨
      ∃ conversion, passing.convert case = .ok conversion ∧
        conversion.findings.find? (·.kind == .unmapped) =
          some ⟨.unmapped, none, none, action, .passthrough, ⟨index, none⟩⟩) ∧
    (∀ case failure, rejecting.convert case = .error failure →
      (∀ action index, failure ≠ .unsupportedAction action index) →
        passing.convert case = .error failure) ∧
    (∀ case conversion, passing.convert case = .ok conversion →
      ∃ pieces, passing.Yields case pieces ∧
        conversion.statements = pieces.flatMap Piece.statements ∧
          conversion.findings = pieces.flatMap Piece.findings) ∧
    ∀ index step, screening.actions.get? step.action = none →
      passing.convertStep index step = .ok {
        statements := [{
          assign := none
          keyword := "Comment"
          args := .verbatim ("unmapped action: " ++ step.action) :: step.args.map .verbatim
          library := none }]
        findings := [⟨.unmapped, none, none, step.action, .passthrough, ⟨index, none⟩⟩] } := by
  intro rejecting passing
  refine ⟨fun case conversion => convert_under_reject_eq_ok_iff,
    fun case action index => convert_under_passthrough_of_unsupported,
    fun case failure => convert_under_passthrough_of_error,
    fun case conversion => exists_yields_of_convert_eq_ok, fun index step absent => ?_⟩
  exact convertStep_under_passthrough_of_absent index absent

/-- A click is unmapped. Behind a log it is where passing through has its first unmapped finding;
before a deletion it is passed only for the deletion to fail; behind a deletion no policy comes to
it. -/
theorem convert_policies_agree_clicks :
    let screening : Screening := ⟨.builtin, .builtin, .reject, .strict⟩
    let rejecting := screening.under .reject
    let passing := screening.under .passthrough
    let log : Step := ⟨"log", ["start"]⟩
    let click : Step := ⟨"click", ["#ok"]⟩
    let delete : Step := ⟨"run_command", ["rm -rf /"]⟩
    let violation (index : Nat) : Failure := .securityViolation "rm-root"
      r"\brm\s+(-{1,2}[a-z-]*\s+)*/\*?(\s|$|[;&|])" index "*** (8 chars)"
    let suite (statements : List Statement) (findings : List Finding) : Conversion :=
      ⟨"clicks", none, [], statements, findings⟩
    let logging : Statement := ⟨none, "Log", [.verbatim "start"], none⟩
    let comment : Statement :=
      ⟨none, "Comment", [.verbatim "unmapped action: click", .verbatim "#ok"], none⟩
    let passed : Finding := ⟨.unmapped, none, none, "click", .passthrough, ⟨1, none⟩⟩
    (passing.convert ⟨"clicks", none, [], [log]⟩ = .ok (suite [logging] []) ∧
      rejecting.convert ⟨"clicks", none, [], [log]⟩ = .ok (suite [logging] [])) ∧
    (rejecting.convert ⟨"clicks", none, [], [log, click]⟩ =
        .error (.unsupportedAction "click" 1) ∧
      passing.convert ⟨"clicks", none, [], [log, click]⟩ =
        .ok (suite [logging, comment] [passed]) ∧
      ∃ pieces, passing.Yields ⟨"clicks", none, [], [log, click]⟩ pieces ∧
        [logging, comment] = pieces.flatMap Piece.statements) ∧
    (rejecting.convert ⟨"clicks", none, [], [click, delete]⟩ =
        .error (.unsupportedAction "click" 0) ∧
      ∃ failure later, passing.convert ⟨"clicks", none, [], [click, delete]⟩ = .error failure ∧
        failure.step? = some later ∧ 0 < later) ∧
    (rejecting.convert ⟨"clicks", none, [], [delete, click]⟩ = .error (violation 0) ∧
      passing.convert ⟨"clicks", none, [], [delete, click]⟩ = .error (violation 0)) ∧
    screening.actions.get? click.action = none ∧
      passing.convertStep 1 click = .ok ⟨[comment], [passed]⟩ := by
  intro screening rejecting passing log click delete violation suite logging comment passed
  obtain ⟨same, unsupported, other, pieces, unmapped⟩ := convert_policies_agree screening
  have logged : passing.convert ⟨"clicks", none, [], [log]⟩ = .ok (suite [logging] []) := by
    decide +kernel
  have absent : screening.actions.get? click.action = none := by decide +kernel
  have commented : passing.convert ⟨"clicks", none, [], [log, click]⟩ =
      .ok (suite [logging, comment] [passed]) := by
    decide +kernel
  have rejected : rejecting.convert ⟨"clicks", none, [], [click, delete]⟩ =
      .error (.unsupportedAction "click" 0) := by
    decide +kernel
  have refused : rejecting.convert ⟨"clicks", none, [], [delete, click]⟩ =
      .error (violation 0) := by
    decide +kernel
  obtain ⟨yielded, holds, statements, _⟩ := pieces _ _ commented
  have stopped : (∃ failure later,
      passing.convert ⟨"clicks", none, [], [click, delete]⟩ = .error failure ∧
        failure.step? = some later ∧ 0 < later) := by
    rcases unsupported _ _ _ rejected with stopped | ⟨conversion, done, _⟩
    · exact stopped
    · have failed : passing.convert ⟨"clicks", none, [], [click, delete]⟩ =
          .error (violation 1) := by
        decide +kernel
      cases failed.symm.trans done
  have first : rejecting.convert ⟨"clicks", none, [], [log, click]⟩ =
      .error (.unsupportedAction "click" 1) := by
    decide +kernel
  exact ⟨⟨logged, (same _ _).mpr ⟨logged, nofun⟩⟩, ⟨first, commented, yielded, holds, statements⟩,
    ⟨rejected, stopped⟩, ⟨refused, other _ _ refused nofun⟩, absent, unmapped 1 click absent⟩

end ScreenedSuite.Screening
