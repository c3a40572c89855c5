import ScreenedSuite.ActionTable.Builtin
import ScreenedSuite.Converter
import ScreenedSuite.Json.Printer
import ScreenedSuite.Proofs.Screening.Steps
import ScreenedSuite.Proofs.TestCase.Reading

/-! # How conversions fail

A step fails on its own account: its action is not supported, the number of its arguments is out of
range, or it holds a dangerous command at the strict level
(`ScreenedSuite.Screening.FailsWith`). A conversion fails exactly as the first of its steps that
fails, whatever comes after it, and a text that describes no test case is refused before any step
is looked at (`ScreenedSuite.Screening.convert_fails_first`).
-/

namespace ScreenedSuite

/-- Whether a number of arguments is neither too small nor too great. -/
def Arity.InRange (arity : Arity) (count : Nat) : Prop :=
  arity.least ≤ count ∧ ∀ most, arity.most = some most → count ≤ most

theorem Arity.admits_iff {arity : Arity} {count : Nat} :
    arity.admits count = true ↔ arity.InRange count := by
  cases arity with
  | exactly wanted =>
      simp only [admits, InRange, least, most, beq_iff_eq, Option.some.injEq, forall_eq']
      omega
  | atLeast wanted =>
      simp only [admits, InRange, least, most, decide_eq_true_eq, reduceCtorEq, false_implies,
        implies_true, and_true]

theorem Template.roleFor_eq_command_iff {template : Template} {index : Nat} :
    template.roleFor index = .command ↔ template.roleAt index = some .command := by
  unfold roleFor
  cases template.roleAt index with
  | none => simp only [Option.getD_none, reduceCtorEq]
  | some role => simp only [Option.getD_some, Option.some.injEq]

namespace Screening

/-- How the step at an index fails. -/
inductive FailsWith (screening : Screening) (index : Nat) (step : Step) : Failure → Prop
  | unsupported (absent : screening.actions.get? step.action = none)
      (rejected : screening.unmapped = .reject) :
      FailsWith screening index step (.unsupportedAction step.action index)
  | arity {template : Template} (found : screening.actions.get? step.action = some template)
      (outside : ¬ template.arity.InRange step.args.length) :
      FailsWith screening index step
        (.malformedInput (.args index) (.arity step.action template.arity step.args.length))
  | violation {template : Template} {position : Nat} {value : String} {entry : Entry}
      (found : screening.actions.get? step.action = some template)
      (inside : template.arity.InRange step.args.length) (strict : screening.level = .strict)
      (given : step.args[position]? = some value)
      (role : template.roleAt position = some .command)
      (judged : screening.catalog.classify .strict .command value = .dangerous entry)
      (leftmost : ∀ earlier other otherEntry, earlier < position →
        step.args[earlier]? = some other → template.roleAt earlier = some .command →
          screening.catalog.classify .strict .command other ≠ .dangerous otherEntry) :
      FailsWith screening index step
        (.securityViolation entry.id entry.pattern index (preview value))

/-- A step fails at a position, and no step before it fails. -/
structure FailsFirst (screening : Screening) (steps : List Step) (position : Nat)
    (failure : Failure) : Prop where
  failing : ∃ step, steps[position]? = some step ∧ screening.FailsWith position step failure
  before : ∀ earlier step other, earlier < position → steps[earlier]? = some step →
    ¬ screening.FailsWith earlier step other

variable {screening : Screening}

/-- At the strict level, the arguments refused are the dangerous ones in the role of a command. -/
theorem refuses_roleFor_iff {template : Template} {index : Nat} {value : String}
    (strict : screening.level = .strict) :
    screening.Refuses (template.roleFor index) value ↔ template.roleAt index = some .command ∧
      ∃ entry, screening.catalog.classify .strict .command value = .dangerous entry := by
  simp only [Refuses, judge_eq_dangerous_iff, Template.roleFor_eq_command_iff, strict, true_and,
    exists_and_left]

/-- Screening the arguments of a step fails for the leftmost dangerous command. -/
theorem screenFrom_zero_eq_error_iff {template : Template} {step : Nat} {values : List String}
    {failure : Failure} :
    screening.screenFrom template step 0 values = .error failure ↔
      ∃ position value entry, screening.level = .strict ∧ values[position]? = some value ∧
        template.roleAt position = some .command ∧
        screening.catalog.classify .strict .command value = .dangerous entry ∧
        (∀ earlier other otherEntry, earlier < position → values[earlier]? = some other →
          template.roleAt earlier = some .command →
            screening.catalog.classify .strict .command other ≠ .dangerous otherEntry) ∧
        failure = .securityViolation entry.id entry.pattern step (preview value) := by
  have before (strict : screening.level = .strict) (position : Nat) :
      (∀ argument ∈ (values.take position).zipIdx,
        ¬ screening.Refuses (template.roleFor argument.2) argument.1) ↔
      ∀ earlier other otherEntry, earlier < position → values[earlier]? = some other →
        template.roleAt earlier = some .command →
          screening.catalog.classify .strict .command other ≠ .dangerous otherEntry := by
    constructor
    · intro accepted earlier other otherEntry ordered given role dangerous
      have member : (other, earlier) ∈ (values.take position).zipIdx :=
        List.mk_mem_zipIdx_iff_getElem?.mpr (by rwa [List.getElem?_take_of_lt ordered])
      exact accepted _ member ((refuses_roleFor_iff strict).mpr ⟨role, otherEntry, dangerous⟩)
    · rintro harmless ⟨other, earlier⟩ member refused
      have given := List.mk_mem_zipIdx_iff_getElem?.mp member
      obtain ⟨role, otherEntry, dangerous⟩ := (refuses_roleFor_iff strict).mp refused
      rw [List.getElem?_take] at given
      split at given
      · next ordered => exact harmless earlier other otherEntry ordered given role dangerous
      · cases given
  rw [screenFrom_eq_error_iff]
  constructor
  · rintro ⟨position, value, given, ⟨strict, entry, judged, rfl⟩, accepted⟩
    obtain ⟨role, dangerous⟩ := judge_eq_dangerous_iff.mp judged
    rw [Nat.zero_add, Template.roleFor_eq_command_iff] at role
    rw [strict] at dangerous
    exact ⟨position, value, entry, strict, given, role, dangerous,
      (before strict position).mp accepted, rfl⟩
  · rintro ⟨position, value, entry, strict, given, role, dangerous, harmless, rfl⟩
    refine ⟨position, value, given, ⟨strict, entry, ?_, rfl⟩, (before strict position).mpr harmless⟩
    rw [judge_eq_dangerous_iff, Nat.zero_add, Template.roleFor_eq_command_iff, strict]
    exact ⟨role, dangerous⟩

/-- A step without a template fails only where such steps are rejected. -/
theorem failsWith_iff_of_absent {index : Nat} {step : Step} {failure : Failure}
    (absent : screening.actions.get? step.action = none) :
    screening.FailsWith index step failure ↔
      screening.unmapped = .reject ∧ failure = .unsupportedAction step.action index := by
  constructor
  · intro failed
    cases failed with
    | unsupported _ rejected => exact ⟨rejected, rfl⟩
    | arity found => cases absent.symm.trans found
    | violation found => cases absent.symm.trans found
  · rintro ⟨rejected, rfl⟩
    exact .unsupported absent rejected

/-- A step with a template fails as its conversion does. -/
theorem failsWith_iff_of_found {index : Nat} {step : Step} {template : Template}
    {failure : Failure} (found : screening.actions.get? step.action = some template) :
    screening.FailsWith index step failure ↔
      screening.convertMapped template index step = .error failure := by
  rw [convertMapped_eq_error_iff, Arity.admits_iff]
  constructor
  · intro failed
    cases failed with
    | unsupported absent => cases found.symm.trans absent
    | arity same outside =>
        cases found.symm.trans same
        exact .inr ⟨outside, rfl⟩
    | violation same inside strict given role judged leftmost =>
        cases found.symm.trans same
        exact .inl ⟨inside, screenFrom_zero_eq_error_iff.mpr
          ⟨_, _, _, strict, given, role, judged, leftmost, rfl⟩⟩
  · rintro (⟨inside, failed⟩ | ⟨outside, rfl⟩)
    · obtain ⟨position, value, entry, strict, given, role, judged, leftmost, rfl⟩ :=
        screenFrom_zero_eq_error_iff.mp failed
      exact .violation found inside strict given role judged leftmost
    · exact .arity found outside

/-- A step fails exactly in the ways that steps can fail. -/
theorem convertStep_eq_error_iff {index : Nat} {step : Step} {failure : Failure} :
    screening.convertStep index step = .error failure ↔
      screening.FailsWith index step failure := by
  unfold convertStep
  cases found : screening.actions.get? step.action with
  | none =>
      rw [failsWith_iff_of_absent found]
      cases screening.unmapped with
      | passthrough => simp only [convertUnmapped, reduceCtorEq, false_and]
      | reject => simp only [convertUnmapped, Except.error.injEq, true_and, eq_comm]
  | some template => exact (failsWith_iff_of_found found).symm

theorem accepts_iff_not_failsWith (index : Nat) {step : Step} :
    screening.Accepts step ↔ ∀ failure, ¬ screening.FailsWith index step failure := by
  constructor
  · intro accepted failure failed
    exact not_accepts_of_convertStep_eq_error (convertStep_eq_error_iff.mpr failed) accepted
  · intro harmless
    by_contra refused
    obtain ⟨failure, failed⟩ := exists_convertStep_eq_error refused
    exact harmless failure (convertStep_eq_error_iff.mp failed)

theorem stopsAt_iff_failsFirst {case : TestCase} {position : Nat} {failure : Failure} :
    screening.StopsAt case position failure ↔
      screening.FailsFirst case.steps position failure := by
  constructor
  · rintro ⟨⟨step, here, failed⟩, accepted⟩
    refine ⟨⟨step, here, convertStep_eq_error_iff.mp failed⟩, ?_⟩
    intro earlier earlierStep other ordered there
    have member : earlierStep ∈ case.steps.take position :=
      List.mem_of_getElem? (by rwa [List.getElem?_take_of_lt ordered])
    exact (accepts_iff_not_failsWith earlier).mp (accepted earlierStep member) other
  · rintro ⟨⟨step, here, failed⟩, harmless⟩
    refine ⟨⟨step, here, convertStep_eq_error_iff.mpr failed⟩, ?_⟩
    intro earlierStep member
    obtain ⟨earlier, there⟩ := List.mem_iff_getElem?.mp member
    rw [List.getElem?_take] at there
    split at there
    · next ordered =>
        exact (accepts_iff_not_failsWith earlier).mpr fun other =>
          harmless earlier earlierStep other ordered there
    · cases there

theorem convert_eq_error_iff_failsFirst {case : TestCase} {failure : Failure} :
    screening.convert case = .error failure ↔
      ∃ position, screening.FailsFirst case.steps position failure := by
  simp only [convert_eq_error_iff, stopsAt_iff_failsFirst]

/-- Which step fails first depends on the steps up to it alone. -/
theorem FailsFirst.of_take_eq {steps others : List Step} {position : Nat} {failure : Failure}
    (fails : screening.FailsFirst steps position failure)
    (same : others.take (position + 1) = steps.take (position + 1)) :
    screening.FailsFirst others position failure := by
  have agree (index : Nat) (inside : index ≤ position) : others[index]? = steps[index]? := by
    have kept := congrArg (·[index]?) same
    simpa only [List.getElem?_take_of_lt (Nat.lt_succ_of_le inside)] using kept
  obtain ⟨⟨step, here, failed⟩, before⟩ := fails
  refine ⟨⟨step, by rwa [agree position le_rfl], failed⟩, ?_⟩
  intro earlier earlierStep other ordered there
  exact before earlier earlierStep other ordered (by rwa [← agree earlier ordered.le])

/-- A step that fails names its index. -/
theorem FailsWith.step?_eq {index : Nat} {step : Step} {failure : Failure}
    (failed : screening.FailsWith index step failure) : failure.step? = some index := by
  cases failed with
  | unsupported => rfl
  | arity => rfl
  | violation => rfl

/-- A conversion fails exactly when some step fails. -/
theorem exists_convert_eq_error_iff {case : TestCase} :
    (∃ failure, screening.convert case = .error failure) ↔
      ∃ position step failure, case.steps[position]? = some step ∧
        screening.FailsWith position step failure := by
  constructor
  · rintro ⟨failure, failed⟩
    obtain ⟨position, ⟨⟨step, here, stepFailed⟩, _⟩⟩ := convert_eq_error_iff_failsFirst.mp failed
    exact ⟨position, step, failure, here, stepFailed⟩
  · rintro ⟨position, step, failure, here, failed⟩
    cases outcome : screening.convert case with
    | error other => exact ⟨other, rfl⟩
    | ok conversion =>
        have accepted := (convert_eq_ok_iff.mp outcome).1 step (List.mem_of_getElem? here)
        exact ((accepts_iff_not_failsWith position).mp accepted failure failed).elim

/-- Below the strict level nothing is a security violation. -/
theorem convert_ne_securityViolation (lenient : screening.level ≠ .strict) (case : TestCase)
    (ruleId pattern : String) (step : Nat) (preview : String) :
    screening.convert case ≠ .error (.securityViolation ruleId pattern step preview) := by
  intro failed
  obtain ⟨position, ⟨⟨_, _, stepFailed⟩, _⟩⟩ := convert_eq_error_iff_failsFirst.mp failed
  cases stepFailed with
  | violation _ _ strict => exact lenient strict

end Screening

namespace Converter

variable {converter : Converter} {text : String}

/-- A text that describes no test case is refused by the reader. -/
theorem convert_of_undescribed
    (undescribed : ¬ ∃ document case, Json.ofText? text = .ok document ∧
      TestCase.Describes document case) :
    ∃ place defect, TestCase.ofText? text = .error (.malformedInput place defect) ∧
      converter.convert text = .error (.malformedInput place defect) := by
  cases outcome : TestCase.ofText? text with
  | ok case =>
      obtain ⟨document, parsed, described⟩ := TestCase.ofText?_eq_ok_iff.mp outcome
      exact (undescribed ⟨document, case, parsed, described⟩).elim
  | error failure =>
      obtain ⟨place, defect, rfl⟩ := TestCase.exists_malformedInput_of_ofText?_eq_error outcome
      refine ⟨place, defect, rfl, ?_⟩
      rw [convert, outcome]
      rfl

/-- A text that describes a test case fails as that test case does. -/
theorem convert_eq_error_iff_of_describes {document : Json} {case : TestCase}
    (parsed : Json.ofText? text = .ok document) (described : TestCase.Describes document case)
    {failure : Failure} :
    converter.convert text = .error failure ↔
      converter.screening.convert case = .error failure := by
  have read := TestCase.ofText?_eq_ok_iff.mpr ⟨document, parsed, described⟩
  rw [convert, Outcome.bind_eq_error_iff, read]
  simp only [reduceCtorEq, Except.ok.injEq, exists_eq_left', false_or]
  exact Outcome.map_eq_error_iff

end Converter

namespace Screening

/-- **A conversion fails exactly as the first of its steps that fails.** The failure names that step
and depends on no later one, and below the strict level it is never a security violation. A text
that describes no test case is refused as such, whatever its steps would do. -/
theorem convert_fails_first (screening : Screening) :
    (∀ (case : TestCase) failure, screening.convert case = .error failure ↔
      ∃ position, screening.FailsFirst case.steps position failure) ∧
    (∀ case : TestCase, (∃ failure, screening.convert case = .error failure) ↔
      ∃ position step failure, case.steps[position]? = some step ∧
        screening.FailsWith position step failure) ∧
    (∀ (case : TestCase) position failure, screening.FailsFirst case.steps position failure →
      failure.step? = some position ∧ ∀ other : TestCase,
        other.steps.take (position + 1) = case.steps.take (position + 1) →
          screening.convert other = .error failure) ∧
    (screening.level ≠ .strict → ∀ case ruleId pattern step preview,
      screening.convert case ≠ .error (.securityViolation ruleId pattern step preview)) ∧
    ∀ width text,
      ((¬ ∃ document case, Json.ofText? text = .ok document ∧ TestCase.Describes document case) →
        ∃ place defect, TestCase.ofText? text = .error (.malformedInput place defect) ∧
          Converter.convert ⟨screening, width⟩ text = .error (.malformedInput place defect)) ∧
      ∀ document case, Json.ofText? text = .ok document → TestCase.Describes document case →
        ∀ failure, Converter.convert ⟨screening, width⟩ text = .error failure ↔
          screening.convert case = .error failure := by
  refine ⟨fun case failure => convert_eq_error_iff_failsFirst,
    fun case => exists_convert_eq_error_iff, fun case position failure fails => ⟨?_, ?_⟩,
    convert_ne_securityViolation, fun width text => ⟨Converter.convert_of_undescribed, ?_⟩⟩
  · obtain ⟨step, _, failed⟩ := fails.failing
    exact failed.step?_eq
  · intro other same
    exact convert_eq_error_iff_failsFirst.mpr ⟨position, fails.of_take_eq same⟩
  · intro document case parsed described failure
    exact Converter.convert_eq_error_iff_of_describes parsed described

/-- A deletion behind a harmless step stops a strict conversion before an unsupported action does,
and is no violation at the standard level. A blank name stops a conversion before any action. -/
theorem convert_fails_first_deletion_and_blank_name :
    let strict : Screening := ⟨.builtin, .builtin, .reject, .strict⟩
    let standard : Screening := ⟨.builtin, .builtin, .reject, .standard⟩
    let steps : List Step := [⟨"log", ["start"]⟩, ⟨"run_command", ["rm -rf /"]⟩]
    let violation : Failure := .securityViolation "rm-root"
      r"\brm\s+(-{1,2}[a-z-]*\s+)*/\*?(\s|$|[;&|])" 1 "*** (8 chars)"
    let text (name : String) : String := Json.compact (.object [("name", .string name),
      ("steps", .array [.object [("action", .string "click")]])])
    strict.FailsFirst steps 1 violation ∧
      strict.convert { name := "wipe", steps := steps ++ [⟨"click", []⟩] } = .error violation ∧
      (standard.level ≠ .strict ∧
        standard.convert { name := "wipe", steps := steps } ≠ .error violation) ∧
      ((¬ ∃ document case, Json.ofText? (text " ") = .ok document ∧
          TestCase.Describes document case) ∧
        ∃ place defect, Converter.convert ⟨strict, 4⟩ (text " ") =
          .error (.malformedInput place defect)) ∧
      (∃ document, Json.ofText? (text "a") = .ok document ∧
        TestCase.Describes document ⟨"a", none, [], [⟨"click", []⟩]⟩) ∧
      Converter.convert ⟨strict, 4⟩ (text "a") = .error (.unsupportedAction "click" 0) := by
  intro strict standard steps violation text
  obtain ⟨fails, _, first, _, reading⟩ := convert_fails_first strict
  obtain ⟨_, _, _, lenient, _⟩ := convert_fails_first standard
  have failed : strict.convert { name := "wipe", steps := steps } = .error violation := by
    decide +kernel
  obtain ⟨position, stops⟩ := (fails _ _).mp failed
  obtain ⟨named, alike⟩ := first { name := "wipe", steps := steps } position violation stops
  obtain rfl : 1 = position := Option.some.inj named
  have undescribed : ¬ ∃ document case, Json.ofText? (text " ") = .ok document ∧
      TestCase.Describes document case := by
    rintro ⟨document, case, parsed, described⟩
    have read := TestCase.ofText?_eq_ok_iff.mpr ⟨document, parsed, described⟩
    have refused : TestCase.ofText? (text " ") = .error (.malformedInput .name .blank) := by
      decide +kernel
    cases refused.symm.trans read
  have read : TestCase.ofText? (text "a") = .ok ⟨"a", none, [], [⟨"click", []⟩]⟩ := by
    decide +kernel
  obtain ⟨document, parsed, described⟩ := TestCase.ofText?_eq_ok_iff.mp read
  obtain ⟨place, defect, _, refused⟩ := (reading 4 (text " ")).1 undescribed
  have unsupported : strict.convert ⟨"a", none, [], [⟨"click", []⟩]⟩ =
      .error (.unsupportedAction "click" 0) := by
    decide +kernel
  have different : standard.level ≠ .strict := by decide
  exact ⟨stops, alike _ rfl, ⟨different, lenient different _ _ _ _ _⟩,
    ⟨undescribed, place, defect, refused⟩, ⟨document, parsed, described⟩,
    ((reading 4 (text "a")).2 document _ parsed described _).mpr unsupported⟩

end Screening

end ScreenedSuite
