import Mathlib.Data.List.Forall2
import ScreenedSuite.ActionTable.Builtin
import ScreenedSuite.Proofs.Screening.Failures

/-! # Free text decides nothing

Names, documentation, tags, arguments in the role of free text and the arguments of unmapped
actions are never looked at. Two test cases that differ in nothing else fail alike, or have the
same findings and statements that differ only in the values of tokens
(`ScreenedSuite.Screening.convert_ignores_freeText`).
-/

namespace ScreenedSuite

/-- Two statements that differ at most in the values of their arguments. -/
structure Statement.SameShape (first second : Statement) : Prop where
  assign : first.assign = second.assign
  keyword : first.keyword = second.keyword
  library : first.library = second.library
  count : first.args.length = second.args.length
  provenances : first.args.map Token.provenance = second.args.map Token.provenance

/-- Two conversions with the same findings and with statements of the same shape. -/
structure Conversion.SameVerdict (first second : Conversion) : Prop where
  findings : first.findings = second.findings
  statements : List.Forall₂ Statement.SameShape first.statements second.statements

theorem Statement.SameShape.of_provenances {first second : Statement}
    (assign : first.assign = second.assign) (keyword : first.keyword = second.keyword)
    (library : first.library = second.library)
    (provenances : first.args.map Token.provenance = second.args.map Token.provenance) :
    first.SameShape second where
  assign := assign
  keyword := keyword
  library := library
  count := by simpa only [List.length_map] using congrArg List.length provenances
  provenances := provenances

theorem Statement.SameShape.refl (statement : Statement) : statement.SameShape statement :=
  .of_provenances rfl rfl rfl rfl

namespace Screening

/-- Two steps with the same action and equally many arguments, of which those in the roles of
commands and paths are the same. -/
structure SameScreened (screening : Screening) (first second : Step) : Prop where
  action : first.action = second.action
  count : first.args.length = second.args.length
  screened : ∀ template position role, screening.actions.get? first.action = some template →
    template.roleAt position = some role → role ≠ .text →
      first.args[position]? = second.args[position]?

variable {screening : Screening}

namespace SameScreened

variable {first second : Step}

theorem symm (same : screening.SameScreened first second) :
    screening.SameScreened second first where
  action := same.action.symm
  count := same.count.symm
  screened template position role found known screened :=
    (same.screened template position role (same.action ▸ found) known screened).symm

/-- How a step fails depends on its screened arguments alone. -/
theorem failsWith (same : screening.SameScreened first second) {index : Nat} {failure : Failure}
    (failed : screening.FailsWith index first failure) :
    screening.FailsWith index second failure := by
  cases failed with
  | unsupported absent rejected =>
      rw [same.action] at absent ⊢
      exact .unsupported absent rejected
  | @arity template found outside =>
      rw [same.count] at outside ⊢
      rw [same.action] at found ⊢
      exact .arity found outside
  | @violation template position value entry found inside strict given role judged leftmost =>
      have screened := same.screened template
      have command : Role.command ≠ .text := by decide
      refine .violation (same.action ▸ found) (same.count ▸ inside) strict ?_ role judged ?_
      · rw [← screened position .command found role command, given]
      · intro earlier other otherEntry ordered there otherRole
        rw [← screened earlier .command found otherRole command] at there
        exact leftmost earlier other otherEntry ordered there otherRole

/-- What is made of the arguments one by one, and of free text without a look at it, is the same
for both steps. -/
theorem map_zipIdx_eq (same : screening.SameScreened first second) {template : Template}
    (found : screening.actions.get? first.action = some template) {α : Type}
    (shown : Role → String → Nat → α)
    (blind : ∀ value other position, shown .text value position = shown .text other position) :
    first.args.zipIdx.map (fun argument =>
        shown (template.roleFor argument.2) argument.1 argument.2) =
      second.args.zipIdx.map fun argument =>
        shown (template.roleFor argument.2) argument.1 argument.2 := by
  apply List.ext_getElem? fun position => ?_
  simp only [List.getElem?_map, List.getElem?_zipIdx, Nat.zero_add, Option.map_map]
  by_cases isText : template.roleFor position = .text
  · by_cases inside : position < first.args.length
    · have otherInside : position < second.args.length := same.count ▸ inside
      simp only [List.getElem?_eq_getElem inside, List.getElem?_eq_getElem otherInside,
        Option.map_some, Function.comp_apply, isText]
      rw [blind]
    · have outside : second.args.length ≤ position := same.count ▸ Nat.le_of_not_lt inside
      rw [List.getElem?_eq_none (Nat.le_of_not_lt inside), List.getElem?_eq_none outside]
  · have known : template.roleAt position = some (template.roleFor position) := by
      unfold Template.roleFor at isText ⊢
      cases role : template.roleAt position with
      | none => simp only [role, Option.getD_none, not_true_eq_false] at isText
      | some role => rfl
    rw [same.screened template position _ found known isText]

/-- The findings about a step tell nothing of its free text. -/
theorem findingsFor_eq (same : screening.SameScreened first second) (index : Nat) :
    screening.findingsFor index first = screening.findingsFor index second := by
  cases found : screening.actions.get? first.action with
  | none => simp only [findingsFor, ← same.action, found, unmappedFinding]
  | some template =>
      simp only [findingsFor, ← same.action, found, List.flatMap_def]
      congr 1
      exact same.map_zipIdx_eq found (fun role value position =>
        (screening.findingFor? role value ⟨index, some position⟩).toList) fun _ _ _ => rfl

/-- The statements of a step hold free text in tokens of the same provenances. -/
theorem statementsFor_sameShape (same : screening.SameScreened first second) :
    List.Forall₂ Statement.SameShape (screening.statementsFor first)
      (screening.statementsFor second) := by
  cases found : screening.actions.get? first.action with
  | none =>
      simp only [statementsFor, ← same.action, found]
      refine .cons (.of_provenances rfl rfl rfl ?_) .nil
      have provenance : Token.provenance ∘ Token.verbatim = fun _ => .verbatim := rfl
      simp only [commentStatement, List.map_cons, List.map_map, provenance, List.map_const',
        same.count, Token.verbatim]
  | some template =>
      simp only [statementsFor, ← same.action, found]
      refine .cons (.of_provenances rfl rfl rfl ?_)
        (List.forall₂_same.mpr fun statement _ => .refl statement)
      simp only [Template.mainStatement, List.map_append, List.append_cancel_right_eq, tokensFor,
        List.map_map]
      exact same.map_zipIdx_eq found (fun role value _ =>
        (screening.tokenFor role value).provenance) fun _ _ _ => rfl

end SameScreened

/-! ## Conversions -/

theorem exists_getElem?_of_forall₂ {α β : Type} {related : α → β → Prop} {left : List α}
    {right : List β} (alike : List.Forall₂ related left right) {position : Nat} {value : α}
    (there : left[position]? = some value) :
    ∃ other, right[position]? = some other ∧ related value other := by
  induction alike generalizing position with
  | nil => cases there
  | cons head _ ih =>
      cases position with
      | zero =>
          cases there
          exact ⟨_, rfl, head⟩
      | succ position => exact ih there

theorem forall₂_sameScreened_symm {steps others : List Step}
    (alike : List.Forall₂ screening.SameScreened steps others) :
    List.Forall₂ screening.SameScreened others steps :=
  alike.flip.imp fun _ _ => SameScreened.symm

/-- Steps with the same screened arguments fail first at the same position, and alike. -/
theorem FailsFirst.of_sameScreened {steps others : List Step} {position : Nat} {failure : Failure}
    (alike : List.Forall₂ screening.SameScreened steps others)
    (fails : screening.FailsFirst steps position failure) :
    screening.FailsFirst others position failure := by
  obtain ⟨⟨step, here, failed⟩, before⟩ := fails
  obtain ⟨other, there, same⟩ := exists_getElem?_of_forall₂ alike here
  refine ⟨⟨other, there, same.failsWith failed⟩, ?_⟩
  intro earlier otherStep otherFailure ordered otherThere otherFailed
  obtain ⟨counterpart, counterpartThere, otherSame⟩ :=
    exists_getElem?_of_forall₂ (forall₂_sameScreened_symm alike) otherThere
  exact before earlier counterpart otherFailure ordered counterpartThere
    (otherSame.failsWith otherFailed)

theorem convert_eq_error_of_sameScreened {first second : TestCase} {failure : Failure}
    (alike : List.Forall₂ screening.SameScreened first.steps second.steps)
    (failed : screening.convert first = .error failure) :
    screening.convert second = .error failure := by
  obtain ⟨position, fails⟩ := convert_eq_error_iff_failsFirst.mp failed
  exact convert_eq_error_iff_failsFirst.mpr ⟨position, fails.of_sameScreened alike⟩

theorem findings_eq_of_sameScreened {steps others : List Step}
    (alike : List.Forall₂ screening.SameScreened steps others) (start : Nat) :
    ((steps.zipIdx start).flatMap fun step => screening.findingsFor step.2 step.1) =
      (others.zipIdx start).flatMap fun step => screening.findingsFor step.2 step.1 := by
  induction alike generalizing start with
  | nil => rfl
  | cons head _ ih =>
      simp only [List.zipIdx_cons, List.flatMap_cons, head.findingsFor_eq, ih]

theorem statements_sameShape {steps others : List Step}
    (alike : List.Forall₂ screening.SameScreened steps others) :
    List.Forall₂ Statement.SameShape (steps.flatMap screening.statementsFor)
      (others.flatMap screening.statementsFor) := by
  induction alike with
  | nil => exact .nil
  | cons head _ ih =>
      simp only [List.flatMap_cons]
      exact List.rel_append head.statementsFor_sameShape ih

/-- **Free text decides nothing.** Test cases whose steps have the same actions, equally many
arguments and the same commands and paths fail with the same failure, or are converted with the
same findings to statements of the same shape, whatever else they hold. -/
theorem convert_ignores_freeText {first second : TestCase}
    (alike : List.Forall₂ screening.SameScreened first.steps second.steps) :
    Outcome.Agree Conversion.SameVerdict (screening.convert first) (screening.convert second) := by
  cases outcome : screening.convert first with
  | error failure =>
      rw [convert_eq_error_of_sameScreened alike outcome]
      exact .error failure
  | ok conversion =>
      cases otherOutcome : screening.convert second with
      | error failure =>
          have back := forall₂_sameScreened_symm alike
          cases outcome.symm.trans (convert_eq_error_of_sameScreened back otherOutcome)
      | ok other =>
          obtain ⟨_, rfl⟩ := convert_eq_ok_iff.mp outcome
          obtain ⟨_, rfl⟩ := convert_eq_ok_iff.mp otherOutcome
          exact .ok ⟨findings_eq_of_sameScreened alike 0, statements_sameShape alike⟩

/-- What is written to a private key and said of a click is free text, even where one text is a
deletion and the other is not. -/
theorem convert_ignores_freeText_key_and_click :
    let screening : Screening := ⟨.builtin, .builtin, .passthrough, .standard⟩
    let case (name : String) (tags : List String) (text : String) : TestCase := {
      name, tags, steps := [⟨"create_file", ["/root/.ssh/id_rsa", text]⟩, ⟨"click", [text]⟩] }
    List.Forall₂ screening.SameScreened (case "wipe" ["a"] "rm -rf /").steps
        (case "greet" [] "hello").steps ∧
      Outcome.Agree Conversion.SameVerdict (screening.convert (case "wipe" ["a"] "rm -rf /"))
        (screening.convert (case "greet" [] "hello")) := by
  intro screening case
  have creating : screening.actions.get? "create_file" = some
      { ActionTable.fileKeyword "Create File" [.path] with rest := some .text } := by
    decide +kernel
  have clicking : screening.actions.get? "click" = none := by decide +kernel
  have alike : List.Forall₂ screening.SameScreened (case "wipe" ["a"] "rm -rf /").steps
      (case "greet" [] "hello").steps := by
    refine .cons ⟨rfl, rfl, ?_⟩ (.cons ⟨rfl, rfl, ?_⟩ .nil)
    · intro template position role found known screened
      cases creating.symm.trans found
      cases position with
      | zero => rfl
      | succ position =>
          cases known
          exact absurd rfl screened
    · intro template position role found
      cases clicking.symm.trans found
  exact ⟨alike, convert_ignores_freeText alike⟩

end Screening

end ScreenedSuite
