import Mathlib.Data.List.Forall2
import ScreenedSuite.ActionTable.Builtin
import ScreenedSuite.Proofs.Screening.Steps

/-! # What a conversion holds

A conversion holds exactly what its steps call for (`ScreenedSuite.Screening.convert_exact`): each
argument of a step with a template is one token of the step's main statement, in its place, and
each flagged argument and each step without a template is one finding. The findings stand in the
order of their locations, so none of them is repeated.
-/

namespace ScreenedSuite

/-- Whether one location comes before another. A step comes before its arguments. -/
def Location.Before (first second : Location) : Prop :=
  first.step < second.step ∨ first.step = second.step ∧ first.arg < second.arg

namespace Screening

/-- `StandsFor role value token` says that the token stands for an argument with the role. -/
inductive StandsFor (screening : Screening) : Role → String → Token → Prop
  | text (value : String) : StandsFor screening .text value (.verbatim value)
  | passed {role : Role} {kind : ListKind} {value : String}
      (screened : role.screenedBy = some kind)
      (safe : screening.catalog.classify screening.level kind value = .safe) :
      StandsFor screening role value (.screened value)
  | withheld {role : Role} {kind : ListKind} {value : String}
      (screened : role.screenedBy = some kind)
      (flagged : screening.catalog.classify screening.level kind value ≠ .safe) :
      StandsFor screening role value .redacted

/-- The statements of a step. The main statement of a step with a template has the tokens for the
arguments in front, and all other tokens are literals of the template. For a step without a template
there is a comment that names the action and holds the arguments. -/
inductive Realizes (screening : Screening) (step : Step) : List Statement → Prop
  | mapped {template : Template} {main : Statement} {following : List Statement}
      (found : screening.actions.get? step.action = some template)
      (count : main.args.length = step.args.length + template.trailing.length)
      (inputs : ∀ position value, step.args[position]? = some value → ∃ role token,
        template.roleAt position = some role ∧ main.args[position]? = some token ∧
          screening.StandsFor role value token)
      (literals : main.args.drop step.args.length = template.trailing.map Token.generated)
      (calls : List.Forall₂ (fun followUp statement =>
        statement.args = followUp.args.map Token.generated) template.followUps following) :
      Realizes screening step (main :: following)
  | unmapped (absent : screening.actions.get? step.action = none) :
      Realizes screening step [⟨none, "Comment",
        .verbatim ("unmapped action: " ++ step.action) :: step.args.map Token.verbatim, none⟩]

/-- The findings that the steps of a test case call for. -/
inductive CallsFor (screening : Screening) (steps : List Step) : Finding → Prop
  | dangerous {index position : Nat} {step : Step} {template : Template} {value : String}
      {entry : Entry} (here : steps[index]? = some step)
      (found : screening.actions.get? step.action = some template)
      (given : step.args[position]? = some value) (role : template.roleAt position = some .command)
      (judged : screening.catalog.classify screening.level .command value = .dangerous entry) :
      CallsFor screening steps
        ⟨.dangerous, some entry.id, some entry.pattern, value, .redacted, ⟨index, some position⟩⟩
  | sensitive {index position : Nat} {step : Step} {template : Template} {value : String}
      {entry : Entry} (here : steps[index]? = some step)
      (found : screening.actions.get? step.action = some template)
      (given : step.args[position]? = some value) (role : template.roleAt position = some .path)
      (judged : screening.catalog.classify screening.level .path value = .sensitive entry) :
      CallsFor screening steps
        ⟨.sensitive, some entry.id, some entry.pattern, value, .redacted, ⟨index, some position⟩⟩
  | unmapped {index : Nat} {step : Step} (here : steps[index]? = some step)
      (absent : screening.actions.get? step.action = none) :
      CallsFor screening steps
        ⟨.unmapped, none, none, step.action, .passthrough, ⟨index, none⟩⟩

/-- A conversion of a test case that holds exactly what its steps call for. -/
structure Exact (screening : Screening) (case : TestCase) (conversion : Conversion) : Prop where
  statements : ∃ blocks, conversion.statements = blocks.flatten ∧
    List.Forall₂ screening.Realizes case.steps blocks
  findings : ∀ finding, finding ∈ conversion.findings ↔ screening.CallsFor case.steps finding
  ordered : conversion.findings.Pairwise fun earlier later =>
    earlier.location.Before later.location
  withoutDanger : screening.level = .strict →
    ∀ finding ∈ conversion.findings, finding.kind ≠ .dangerous

variable {screening : Screening}

theorem tokenFor_standsFor (role : Role) (value : String) :
    screening.StandsFor role value (screening.tokenFor role value) := by
  unfold tokenFor judge plainToken
  cases screened : role.screenedBy with
  | none =>
      cases role with
      | text => exact .text value
      | command => cases screened
      | path => cases screened
  | some kind =>
      simp only
      cases judged : screening.catalog.classify screening.level kind value with
      | safe => exact .passed screened judged
      | dangerous entry => exact .withheld screened (judged ▸ Classification.noConfusion)
      | sensitive entry => exact .withheld screened (judged ▸ Classification.noConfusion)

theorem length_tokensFor (screening : Screening) (template : Template) (args : List String) :
    (screening.tokensFor template args).length = args.length := by
  rw [tokensFor, List.length_map, List.length_zipIdx]

/-- Where a step has an argument, its main statement has a token that stands for it. -/
theorem mainStatement_input (screening : Screening) {template : Template} {args : List String}
    (admitted : template.arity.admits args.length = true) {position : Nat} {value : String}
    (given : args[position]? = some value) : ∃ role token,
      template.roleAt position = some role ∧
        (template.mainStatement (screening.tokensFor template args)).args[position]? = some token ∧
          screening.StandsFor role value token := by
  have inside : position < args.length := (List.getElem?_eq_some_iff.mp given).1
  refine ⟨_, _, Template.roleAt_of_admits admitted inside, ?_, tokenFor_standsFor _ value⟩
  rw [Template.mainStatement,
    List.getElem?_append_left (length_tokensFor screening _ args ▸ inside), tokensFor,
    List.getElem?_map, List.getElem?_zipIdx, given, Option.map_some, Option.map_some, Nat.zero_add]

theorem length_mainStatement (screening : Screening) (template : Template) (args : List String) :
    (template.mainStatement (screening.tokensFor template args)).args.length =
      args.length + template.trailing.length := by
  rw [Template.mainStatement, List.length_append, List.length_map, length_tokensFor]

/-- Behind the tokens for the arguments, a main statement has the literals of its template. -/
theorem drop_mainStatement (screening : Screening) (template : Template) (args : List String) :
    (template.mainStatement (screening.tokensFor template args)).args.drop args.length =
      template.trailing.map Token.generated := by
  rw [Template.mainStatement, ← length_tokensFor screening template args, List.drop_left]

/-- The statements of an accepted step stand for the step. -/
theorem statementsFor_realizes {step : Step} (accepted : screening.Accepts step) :
    screening.Realizes step (screening.statementsFor step) := by
  unfold Accepts at accepted
  unfold statementsFor
  cases found : screening.actions.get? step.action with
  | none => exact .unmapped found
  | some template =>
      simp only [found] at accepted
      refine .mapped found (length_mainStatement screening template step.args) ?_
        (drop_mainStatement screening template step.args) ?_
      · intro position value given
        exact mainStatement_input screening accepted.1 given
      · rw [List.forall₂_map_right_iff, List.forall₂_same]
        intro followUp _
        rfl

/-- What flags an argument decides what its finding tells. -/
theorem findingFor?_eq_some_iff {role : Role} {value : String} {location : Location}
    {finding : Finding} :
    screening.findingFor? role value location = some finding ↔
      (∃ entry, role = .command ∧
        screening.catalog.classify screening.level .command value = .dangerous entry ∧
          finding = flaggedFinding .dangerous entry value location) ∨
      ∃ entry, role = .path ∧
        screening.catalog.classify screening.level .path value = .sensitive entry ∧
          finding = flaggedFinding .sensitive entry value location := by
  unfold findingFor? judge Catalog.classify
  cases role with
  | text => simp only [Role.screenedBy, reduceCtorEq, false_and, exists_false, or_self]
  | command =>
      simp only [Role.screenedBy]
      cases screening.catalog.flag? screening.level .command value with
      | none => simp only [reduceCtorEq, false_and, and_false, exists_false, or_self]
      | some entry =>
          simp only [Classification.flagged, Option.some.injEq, true_and, reduceCtorEq, false_and,
            exists_false, or_false, Classification.dangerous.injEq, exists_eq_left', eq_comm]
  | path =>
      simp only [Role.screenedBy]
      cases screening.catalog.flag? screening.level .path value with
      | none => simp only [reduceCtorEq, false_and, and_false, exists_false, or_self]
      | some entry =>
          simp only [Classification.flagged, Option.some.injEq, true_and, reduceCtorEq, false_and,
            exists_false, false_or, Classification.sensitive.injEq, exists_eq_left', eq_comm]

/-- At the place of a step without a template, one finding is called for. -/
theorem callsFor_iff_of_absent {steps : List Step} {index : Nat} {step : Step} {finding : Finding}
    (here : steps[index]? = some step) (absent : screening.actions.get? step.action = none) :
    screening.CallsFor steps finding ∧ finding.location.step = index ↔
      finding = unmappedFinding step index := by
  constructor
  · rintro ⟨called, located⟩
    cases called with
    | dangerous there found =>
        cases located
        cases here.symm.trans there
        cases absent.symm.trans found
    | sensitive there found =>
        cases located
        cases here.symm.trans there
        cases absent.symm.trans found
    | unmapped there =>
        cases located
        cases here.symm.trans there
        rfl
  · rintro rfl
    exact ⟨.unmapped here absent, rfl⟩

/-- At the place of a step with a template, the findings called for are about flagged arguments in
the roles that the template gives them. -/
theorem callsFor_iff_of_found {steps : List Step} {index : Nat} {step : Step} {template : Template}
    {finding : Finding} (here : steps[index]? = some step)
    (found : screening.actions.get? step.action = some template) :
    screening.CallsFor steps finding ∧ finding.location.step = index ↔
      ∃ position value role, step.args[position]? = some value ∧
        template.roleAt position = some role ∧
          screening.findingFor? role value ⟨index, some position⟩ = some finding := by
  constructor
  · rintro ⟨called, located⟩
    cases called with
    | dangerous there same given role judged =>
        cases located
        cases here.symm.trans there
        cases found.symm.trans same
        exact ⟨_, _, _, given, role, findingFor?_eq_some_iff.mpr (.inl ⟨_, rfl, judged, rfl⟩)⟩
    | sensitive there same given role judged =>
        cases located
        cases here.symm.trans there
        cases found.symm.trans same
        exact ⟨_, _, _, given, role, findingFor?_eq_some_iff.mpr (.inr ⟨_, rfl, judged, rfl⟩)⟩
    | unmapped there absent =>
        cases located
        cases here.symm.trans there
        cases found.symm.trans absent
  · rintro ⟨position, value, role, given, known, recorded⟩
    rcases findingFor?_eq_some_iff.mp recorded with
      ⟨entry, rfl, judged, rfl⟩ | ⟨entry, rfl, judged, rfl⟩
    · exact ⟨.dangerous here found given known judged, rfl⟩
    · exact ⟨.sensitive here found given known judged, rfl⟩

/-- The findings about an accepted step are the ones that are called for at its place. -/
theorem mem_findingsFor_iff {steps : List Step} {index : Nat} {step : Step} {finding : Finding}
    (accepted : screening.Accepts step) (here : steps[index]? = some step) :
    finding ∈ screening.findingsFor index step ↔
      screening.CallsFor steps finding ∧ finding.location.step = index := by
  unfold Accepts at accepted
  unfold findingsFor
  cases found : screening.actions.get? step.action with
  | none => rw [callsFor_iff_of_absent here found, List.mem_singleton]
  | some template =>
      simp only [found] at accepted
      rw [callsFor_iff_of_found here found]
      simp only [List.mem_flatMap, Option.mem_toList, Prod.exists, List.mk_mem_zipIdx_iff_getElem?]
      constructor
      · rintro ⟨value, position, given, recorded⟩
        have inside : position < step.args.length := (List.getElem?_eq_some_iff.mp given).1
        exact ⟨position, value, _, given, Template.roleAt_of_admits accepted.1 inside, recorded⟩
      · rintro ⟨position, value, role, given, known, recorded⟩
        refine ⟨value, position, given, ?_⟩
        rwa [Template.roleFor, known, Option.getD_some]

theorem pairwise_zipIdx {α : Type} (items : List α) (start : Nat) :
    (items.zipIdx start).Pairwise fun earlier later => earlier.2 < later.2 := by
  have positions : ((items.zipIdx start).map Prod.snd).Pairwise (· < ·) := by
    rw [List.zipIdx_map_snd]
    exact List.pairwise_lt_range'
  exact List.pairwise_map.mp positions

theorem location_of_findingFor? {role : Role} {value : String} {location : Location}
    {finding : Finding} (recorded : screening.findingFor? role value location = some finding) :
    finding.location = location := by
  rcases findingFor?_eq_some_iff.mp recorded with ⟨_, _, _, rfl⟩ | ⟨_, _, _, rfl⟩
  · rfl
  · rfl

theorem step_of_mem_findingsFor {index : Nat} {step : Step} {finding : Finding}
    (member : finding ∈ screening.findingsFor index step) : finding.location.step = index := by
  unfold findingsFor at member
  cases found : screening.actions.get? step.action with
  | none =>
      simp only [found, List.mem_singleton] at member
      subst member
      rfl
  | some template =>
      simp only [found, List.mem_flatMap, Option.mem_toList] at member
      obtain ⟨argument, _, recorded⟩ := member
      rw [location_of_findingFor? recorded]

theorem findingsFor_pairwise (index : Nat) (step : Step) :
    (screening.findingsFor index step).Pairwise fun earlier later =>
      earlier.location.Before later.location := by
  unfold findingsFor
  cases screening.actions.get? step.action with
  | none => exact List.pairwise_singleton _ _
  | some template =>
      simp only
      rw [List.pairwise_flatMap]
      constructor
      · intro argument _
        cases screening.findingFor? (template.roleFor argument.2) argument.1 _ with
        | none => exact .nil
        | some finding => exact List.pairwise_singleton _ _
      · apply (pairwise_zipIdx step.args 0).imp
        intro earlier later positions first firstRecorded second secondRecorded
        rw [location_of_findingFor? (Option.mem_toList.mp firstRecorded),
          location_of_findingFor? (Option.mem_toList.mp secondRecorded)]
        exact .inr ⟨rfl, positions⟩

/-- **A conversion holds exactly what its steps call for.** -/
theorem convert_exact {case : TestCase} {conversion : Conversion}
    (done : screening.convert case = .ok conversion) : screening.Exact case conversion := by
  obtain ⟨accepted, rfl⟩ := convert_eq_ok_iff.mp done
  have findings (finding : Finding) : finding ∈ (screening.converted case).findings ↔
      screening.CallsFor case.steps finding := by
    simp only [converted, List.mem_flatMap, Prod.exists, List.mk_mem_zipIdx_iff_getElem?]
    constructor
    · rintro ⟨step, index, here, member⟩
      have stepAccepted := accepted step (List.mem_of_getElem? here)
      exact ((mem_findingsFor_iff stepAccepted here).mp member).1
    · intro called
      obtain ⟨step, here⟩ : ∃ step, case.steps[finding.location.step]? = some step := by
        cases called with
        | dangerous here => exact ⟨_, here⟩
        | sensitive here => exact ⟨_, here⟩
        | unmapped here => exact ⟨_, here⟩
      have stepAccepted := accepted step (List.mem_of_getElem? here)
      exact ⟨step, _, here, (mem_findingsFor_iff stepAccepted here).mpr ⟨called, rfl⟩⟩
  refine ⟨⟨case.steps.map screening.statementsFor, ?_, ?_⟩, findings, ?_, ?_⟩
  · exact List.flatMap_def
  · rw [List.forall₂_map_right_iff, List.forall₂_same]
    intro step member
    exact statementsFor_realizes (accepted step member)
  · simp only [converted]
    rw [List.pairwise_flatMap]
    constructor
    · intro step _
      exact findingsFor_pairwise step.2 step.1
    · apply (pairwise_zipIdx case.steps 0).imp
      intro earlier later positions first firstMember second secondMember
      refine .inl ?_
      rwa [step_of_mem_findingsFor firstMember, step_of_mem_findingsFor secondMember]
  · intro strict finding member dangerous
    cases (findings finding).mp member with
    | @dangerous index position step template value entry here found given known judged =>
        have stepAccepted := accepted step (List.mem_of_getElem? here)
        simp only [Accepts, found] at stepAccepted
        have refused : screening.judge (template.roleFor position) value = .dangerous entry := by
          simp only [judge, Template.roleFor, known, Option.getD_some, Role.screenedBy, judged]
        exact stepAccepted.2 _ (List.mk_mem_zipIdx_iff_getElem?.mpr given) ⟨strict, entry, refused⟩
    | sensitive => cases dangerous
    | unmapped => cases dangerous

/-- A test case with a flagged path, an unmapped action and a free text. -/
theorem convert_exact_mixed_steps :
    let screening : Screening := ⟨.builtin, .builtin, .passthrough, .permissive⟩
    let case : TestCase := { name := "mixed", steps := [
      ⟨"copy_file", ["a", "b/.aws/credentials"]⟩, ⟨"click", ["#ok"]⟩,
      ⟨"log", ["b/.aws/credentials"]⟩] }
    let conversion : Conversion := {
      name := "mixed"
      documentation := none
      tags := []
      statements := [
        ⟨none, "Copy File", [.screened "a", .redacted], some "OperatingSystem"⟩,
        ⟨none, "Comment", [.verbatim "unmapped action: click", .verbatim "#ok"], none⟩,
        ⟨none, "Log", [.verbatim "b/.aws/credentials"], none⟩]
      findings := [
        ⟨.sensitive, some "aws-credentials", some r"\.aws/credentials$", "b/.aws/credentials",
          .redacted, ⟨0, some 1⟩⟩,
        ⟨.unmapped, none, none, "click", .passthrough, ⟨1, none⟩⟩] }
    screening.convert case = .ok conversion ∧ screening.Exact case conversion := by
  intro screening case conversion
  have done : screening.convert case = .ok conversion := by decide +kernel
  exact ⟨done, convert_exact done⟩

end Screening

end ScreenedSuite
