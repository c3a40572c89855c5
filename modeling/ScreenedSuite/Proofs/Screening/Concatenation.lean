import ScreenedSuite.Proofs.Screening.Failures

/-! # Converting steps behind other steps

A step that stands behind others is converted as it is on its own, except that everything which
names a step names one further back: the locations of findings
(`ScreenedSuite.Finding.shift`) and the steps and places in failures
(`ScreenedSuite.Failure.shift`). The conversion of two lists of steps in sequence is therefore put
together from their separate conversions (`ScreenedSuite.Screening.convert_append`).
-/

namespace ScreenedSuite

/-- A location with its step so many places further back. -/
def Location.shift (offset : Nat) (location : Location) : Location :=
  { location with step := location.step + offset }

/-- A finding with its step so many places further back. -/
def Finding.shift (offset : Nat) (finding : Finding) : Finding :=
  { finding with location := finding.location.shift offset }

/-- A place with its step, if it lies in one, so many places further back. -/
def Place.shift (offset : Nat) : Place → Place
  | step index => step (index + offset)
  | action index => action (index + offset)
  | args index => args (index + offset)
  | arg index position => arg (index + offset) position
  | other => other

/-- A failure with its step, if it names one, so many places further back. -/
def Failure.shift (offset : Nat) : Failure → Failure
  | malformedInput place defect => malformedInput (place.shift offset) defect
  | unsupportedAction action index => unsupportedAction action (index + offset)
  | securityViolation ruleId pattern index preview =>
    securityViolation ruleId pattern (index + offset) preview
  | other => other

namespace Screening

variable {screening : Screening}

/-- A step fails further back as it fails here. -/
theorem FailsWith.shift {index : Nat} {step : Step} {failure : Failure}
    (failed : screening.FailsWith index step failure) (offset : Nat) :
    screening.FailsWith (index + offset) step (failure.shift offset) := by
  cases failed with
  | unsupported absent rejected => exact .unsupported absent rejected
  | arity found outside => exact .arity found outside
  | violation found inside strict given role judged leftmost =>
      exact .violation found inside strict given role judged leftmost

/-- An argument is recorded further back as it is recorded here. -/
theorem findingFor?_shift (role : Role) (value : String) (location : Location) (offset : Nat) :
    screening.findingFor? role value (location.shift offset) =
      (screening.findingFor? role value location).map (Finding.shift offset) := by
  unfold findingFor?
  cases screening.judge role value with
  | safe => rfl
  | sensitive entry => rfl
  | dangerous entry => rfl

theorem findingsFor_shift (index : Nat) (step : Step) (offset : Nat) :
    screening.findingsFor (index + offset) step =
      (screening.findingsFor index step).map (Finding.shift offset) := by
  unfold findingsFor
  cases screening.actions.get? step.action with
  | none => rfl
  | some template =>
      simp only [List.map_flatMap]
      refine List.flatMap_congr fun argument _ => ?_
      rw [← Option.toList_map, ← findingFor?_shift]
      rfl

/-- Accepted steps in front of a first failure only move it back. -/
theorem FailsFirst.behind {steps later : List Step} {position : Nat} {failure : Failure}
    (accepted : ∀ step ∈ steps, screening.Accepts step)
    (fails : screening.FailsFirst later position failure) :
    screening.FailsFirst (steps ++ later) (position + steps.length)
      (failure.shift steps.length) := by
  obtain ⟨⟨step, here, failed⟩, before⟩ := fails
  refine ⟨⟨step, ?_, failed.shift steps.length⟩, ?_⟩
  · rwa [List.getElem?_append_right (Nat.le_add_left _ _), Nat.add_sub_cancel]
  · intro earlier earlierStep other ordered there
    suffices harmless : screening.Accepts earlierStep from
      (accepts_iff_not_failsWith earlier).mp harmless other
    by_cases inFront : earlier < steps.length
    · rw [List.getElem?_append_left inFront] at there
      exact accepted earlierStep (List.mem_of_getElem? there)
    · rw [List.getElem?_append_right (Nat.le_of_not_lt inFront)] at there
      refine (accepts_iff_not_failsWith (earlier - steps.length)).mpr fun any => ?_
      exact before _ earlierStep any (by omega) there

theorem findings_append (steps later : List Step) :
    ((steps ++ later).zipIdx.flatMap fun step => screening.findingsFor step.2 step.1) =
      (steps.zipIdx.flatMap fun step => screening.findingsFor step.2 step.1) ++
        (later.zipIdx.flatMap fun step => screening.findingsFor step.2 step.1).map
          (Finding.shift steps.length) := by
  rw [List.zipIdx_append, List.flatMap_append, Nat.zero_add, ← Nat.add_zero steps.length,
    ← List.map_snd_add_zipIdx_eq_zipIdx, List.flatMap_map, List.map_flatMap, Nat.add_zero]
  simp only [Prod.map, id_eq, findingsFor_shift]

/-- **Steps in sequence are converted one list after the other.** The first list fails as it does on
its own. Behind a first list that is converted, the second one fails as it does on its own, or
yields the same statements and findings, with every step moved back by the length of the first. -/
theorem convert_append (screening : Screening) (case : TestCase) (later : List Step) :
    screening.convert { case with steps := case.steps ++ later } =
      match screening.convert case, screening.convert { case with steps := later } with
      | .error failure, _ => .error failure
      | .ok _, .error failure => .error (failure.shift case.steps.length)
      | .ok first, .ok second => .ok { first with
          statements := first.statements ++ second.statements
          findings := first.findings ++ second.findings.map (Finding.shift case.steps.length) } := by
  cases firstOutcome : screening.convert case with
  | error failure =>
      obtain ⟨position, fails⟩ := convert_eq_error_iff_failsFirst.mp firstOutcome
      obtain ⟨step, here, _⟩ := fails.failing
      have inside : position < case.steps.length := (List.getElem?_eq_some_iff.mp here).1
      refine convert_eq_error_iff_failsFirst.mpr ⟨position, fails.of_take_eq ?_⟩
      exact List.take_append_of_le_length inside
  | ok first =>
      obtain ⟨accepted, rfl⟩ := convert_eq_ok_iff.mp firstOutcome
      cases secondOutcome : screening.convert { case with steps := later } with
      | error failure =>
          obtain ⟨position, fails⟩ := convert_eq_error_iff_failsFirst.mp secondOutcome
          exact convert_eq_error_iff_failsFirst.mpr ⟨_, fails.behind accepted⟩
      | ok second =>
          obtain ⟨laterAccepted, rfl⟩ := convert_eq_ok_iff.mp secondOutcome
          refine convert_eq_ok_iff.mpr ⟨List.forall_mem_append.mpr ⟨accepted, laterAccepted⟩, ?_⟩
          simp only [converted, List.flatMap_append, findings_append]

end Screening

end ScreenedSuite
