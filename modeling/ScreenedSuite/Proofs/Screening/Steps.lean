import ScreenedSuite.Proofs.Screening.Arguments

/-! # Converting steps one by one

Whether a step is converted depends on the step alone
(`ScreenedSuite.Screening.Accepts`), and so do its statements; only its findings also tell where it
stands. A conversion succeeds exactly when every step is accepted, and then it is the concatenation
of what the steps yield (`ScreenedSuite.Screening.convert_eq_ok_iff`). Otherwise it fails as the
first step does that is not accepted (`ScreenedSuite.Screening.convert_eq_error_iff`).
-/

namespace ScreenedSuite

/-- The step that a failure of a conversion names. -/
def Failure.step? : Failure → Option Nat
  | malformedInput (.args index) _ => some index
  | unsupportedAction _ index => some index
  | securityViolation _ _ index _ => some index
  | _ => none

namespace Screening

variable {screening : Screening}

/-- Whether a step is converted. -/
def Accepts (screening : Screening) (step : Step) : Prop :=
  match screening.actions.get? step.action with
  | none => screening.unmapped = .passthrough
  | some template =>
    template.arity.admits step.args.length = true ∧
      ∀ argument ∈ step.args.zipIdx, ¬ screening.Refuses (template.roleFor argument.2) argument.1

/-- The tokens for the arguments of a step. -/
def tokensFor (screening : Screening) (template : Template) (args : List String) : List Token :=
  args.zipIdx.map fun argument => screening.tokenFor (template.roleFor argument.2) argument.1

/-- The statements of a step. -/
def statementsFor (screening : Screening) (step : Step) : List Statement :=
  match screening.actions.get? step.action with
  | none => [commentStatement step]
  | some template => template.instantiate (screening.tokensFor template step.args)

/-- The findings about a step at an index. -/
def findingsFor (screening : Screening) (index : Nat) (step : Step) : List Finding :=
  match screening.actions.get? step.action with
  | none => [unmappedFinding step index]
  | some template =>
    step.args.zipIdx.flatMap fun argument =>
      (screening.findingFor? (template.roleFor argument.2) argument.1
        ⟨index, some argument.2⟩).toList

/-- What a test case becomes if all of its steps are accepted. -/
def converted (screening : Screening) (case : TestCase) : Conversion where
  name := case.name
  documentation := case.documentation
  tags := case.tags
  statements := case.steps.flatMap screening.statementsFor
  findings := case.steps.zipIdx.flatMap fun step => screening.findingsFor step.2 step.1

/-- A step is converted exactly when it is accepted. -/
theorem convertStep_eq_ok_iff {index : Nat} {step : Step} {piece : Piece} :
    screening.convertStep index step = .ok piece ↔
      screening.Accepts step ∧
        piece = ⟨screening.statementsFor step, screening.findingsFor index step⟩ := by
  unfold convertStep Accepts statementsFor findingsFor
  cases screening.actions.get? step.action with
  | none =>
      cases policy : screening.unmapped with
      | reject => simp only [convertUnmapped, reduceCtorEq, false_and]
      | passthrough => simp only [convertUnmapped, Except.ok.injEq, true_and, eq_comm]
  | some template =>
      by_cases admitted : template.arity.admits step.args.length = true
      · simp only [convertMapped, admitted, ↓reduceIte, true_and]
        rw [Outcome.bind_eq_ok_iff]
        constructor
        · rintro ⟨⟨tokens, findings⟩, screened, same⟩
          obtain ⟨accepted, rfl, rfl⟩ := screenFrom_eq_ok_iff.mp screened
          cases same
          exact ⟨accepted, rfl⟩
        · rintro ⟨accepted, rfl⟩
          exact ⟨_, screenFrom_eq_ok_iff.mpr ⟨accepted, rfl, rfl⟩, rfl⟩
      · simp only [convertMapped, admitted, Bool.false_eq_true, ↓reduceIte, reduceCtorEq, false_and]

theorem exists_convertStep_eq_error {index : Nat} {step : Step}
    (refused : ¬ screening.Accepts step) :
    ∃ failure, screening.convertStep index step = .error failure := by
  cases outcome : screening.convertStep index step with
  | error failure => exact ⟨failure, rfl⟩
  | ok piece => exact (refused (convertStep_eq_ok_iff.mp outcome).1).elim

theorem not_accepts_of_convertStep_eq_error {index : Nat} {step : Step} {failure : Failure}
    (failed : screening.convertStep index step = .error failure) : ¬ screening.Accepts step := by
  intro accepted
  rw [convertStep_eq_ok_iff.mpr ⟨accepted, rfl⟩] at failed
  cases failed

/-- The steps from an index on are converted exactly when all of them are accepted. -/
theorem convertFrom_eq_ok_iff {index : Nat} {steps : List Step} {piece : Piece} :
    screening.convertFrom index steps = .ok piece ↔
      (∀ step ∈ steps, screening.Accepts step) ∧
        piece = ⟨steps.flatMap screening.statementsFor,
          (steps.zipIdx index).flatMap fun step => screening.findingsFor step.2 step.1⟩ := by
  induction steps generalizing index piece with
  | nil =>
      simp only [convertFrom, List.not_mem_nil, IsEmpty.forall_iff, implies_true, List.zipIdx_nil,
        List.flatMap_nil, true_and, Except.ok.injEq]
      exact eq_comm
  | cons step rest ih =>
      rw [convertFrom, Outcome.bind_eq_ok_iff]
      simp only [List.zipIdx_cons, List.forall_mem_cons, List.flatMap_cons]
      constructor
      · rintro ⟨first, firstConverted, remaining⟩
        obtain ⟨more, restConverted, rfl⟩ := Outcome.map_eq_ok_iff.mp remaining
        obtain ⟨accepted, rfl⟩ := convertStep_eq_ok_iff.mp firstConverted
        obtain ⟨restAccepted, rfl⟩ := ih.mp restConverted
        exact ⟨⟨accepted, restAccepted⟩, rfl⟩
      · rintro ⟨⟨accepted, restAccepted⟩, rfl⟩
        refine ⟨_, convertStep_eq_ok_iff.mpr ⟨accepted, rfl⟩, ?_⟩
        exact Outcome.bind_eq_ok_iff.mpr ⟨_, ih.mpr ⟨restAccepted, rfl⟩, rfl⟩

theorem convertFrom_eq_error_iff {index : Nat} {steps : List Step} {failure : Failure} :
    screening.convertFrom index steps = .error failure ↔
      ∃ position step, steps[position]? = some step ∧
        screening.convertStep (index + position) step = .error failure ∧
          ∀ earlier ∈ steps.take position, screening.Accepts earlier := by
  induction steps generalizing index with
  | nil => simp only [convertFrom, reduceCtorEq, List.getElem?_nil, false_and, exists_false]
  | cons step rest ih =>
      rw [convertFrom, Outcome.bind_eq_error_iff]
      constructor
      · rintro (failed | ⟨first, firstConverted, remaining⟩)
        · refine ⟨0, step, rfl, failed, ?_⟩
          simp only [List.take_zero, List.not_mem_nil, IsEmpty.forall_iff, implies_true]
        · have restFailed := Outcome.map_eq_error_iff.mp remaining
          obtain ⟨position, other, found, otherFailed, before⟩ := ih.mp restFailed
          refine ⟨position + 1, other, found, ?_, ?_⟩
          · rwa [Nat.add_comm position, ← Nat.add_assoc]
          · rw [List.take_succ_cons, List.forall_mem_cons]
            exact ⟨(convertStep_eq_ok_iff.mp firstConverted).1, before⟩
      · rintro ⟨position, other, found, failed, before⟩
        cases position with
        | zero =>
            cases found
            exact .inl failed
        | succ position =>
            rw [List.take_succ_cons, List.forall_mem_cons] at before
            refine .inr ⟨_, convertStep_eq_ok_iff.mpr ⟨before.1, rfl⟩, ?_⟩
            apply Outcome.map_eq_error_iff.mpr
            refine ih.mpr ⟨position, other, found, ?_, before.2⟩
            rwa [Nat.add_assoc, Nat.add_comm 1]

/-- A step with a template fails for the number of its arguments, or as the screening of its
arguments does. -/
theorem convertMapped_eq_error_iff {template : Template} {index : Nat} {step : Step}
    {failure : Failure} :
    screening.convertMapped template index step = .error failure ↔
      (template.arity.admits step.args.length = true ∧
        screening.screenFrom template index 0 step.args = .error failure) ∨
      (¬ template.arity.admits step.args.length = true ∧ failure =
        .malformedInput (.args index) (.arity step.action template.arity step.args.length)) := by
  unfold convertMapped
  split
  · next admitted =>
      simp only [admitted, not_true_eq_false, false_and, true_and, or_false]
      exact Outcome.map_eq_error_iff
  · next refused =>
      simp only [refused, not_false_eq_true, Bool.false_eq_true, true_and, false_and, false_or,
        Except.error.injEq, eq_comm]

/-- A step that fails names its index. -/
theorem step?_of_convertStep_eq_error {index : Nat} {step : Step} {failure : Failure}
    (failed : screening.convertStep index step = .error failure) :
    failure.step? = some index := by
  unfold convertStep at failed
  cases found : screening.actions.get? step.action with
  | none =>
      cases policy : screening.unmapped with
      | reject =>
          simp only [found, policy, convertUnmapped, Except.error.injEq] at failed
          subst failed
          rfl
      | passthrough => simp only [found, policy, convertUnmapped, reduceCtorEq] at failed
  | some template =>
      simp only [found] at failed
      rcases convertMapped_eq_error_iff.mp failed with ⟨_, refused⟩ | ⟨_, rfl⟩
      · obtain ⟨_, _, _, ⟨_, entry, _, rfl⟩, _⟩ := screenFrom_eq_error_iff.mp refused
        rfl
      · rfl

/-- A test case is converted exactly when all of its steps are accepted. -/
theorem convert_eq_ok_iff {case : TestCase} {conversion : Conversion} :
    screening.convert case = .ok conversion ↔
      (∀ step ∈ case.steps, screening.Accepts step) ∧ conversion = screening.converted case := by
  rw [convert, Outcome.bind_eq_ok_iff]
  constructor
  · rintro ⟨piece, stepsConverted, same⟩
    obtain ⟨accepted, rfl⟩ := convertFrom_eq_ok_iff.mp stepsConverted
    cases same
    exact ⟨accepted, rfl⟩
  · rintro ⟨accepted, rfl⟩
    exact ⟨_, convertFrom_eq_ok_iff.mpr ⟨accepted, rfl⟩, rfl⟩

/-- A conversion stops at a position when the step there fails and every step before it is
accepted. -/
structure StopsAt (screening : Screening) (case : TestCase) (position : Nat) (failure : Failure) :
    Prop where
  failing : ∃ step, case.steps[position]? = some step ∧
    screening.convertStep position step = .error failure
  before : ∀ step ∈ case.steps.take position, screening.Accepts step

theorem StopsAt.step?_eq {case : TestCase} {position : Nat} {failure : Failure}
    (stops : screening.StopsAt case position failure) : failure.step? = some position := by
  obtain ⟨step, _, failed⟩ := stops.failing
  exact step?_of_convertStep_eq_error failed

/-- A conversion fails exactly as it does at the step where it stops. -/
theorem convert_eq_error_iff {case : TestCase} {failure : Failure} :
    screening.convert case = .error failure ↔
      ∃ position, screening.StopsAt case position failure := by
  rw [convert, Outcome.map_eq_error_iff, convertFrom_eq_error_iff]
  constructor
  · rintro ⟨position, step, found, failed, before⟩
    rw [Nat.zero_add] at failed
    exact ⟨position, ⟨step, found, failed⟩, before⟩
  · rintro ⟨position, ⟨step, found, failed⟩, before⟩
    refine ⟨position, step, found, ?_, before⟩
    rwa [Nat.zero_add]

end Screening

end ScreenedSuite
