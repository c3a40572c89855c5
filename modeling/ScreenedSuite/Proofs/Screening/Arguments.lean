import Mathlib.Data.List.Basic
import ScreenedSuite.Proofs.Outcome
import ScreenedSuite.Screening.Basic

/-! # Screening arguments one by one

What becomes of an argument depends on its role, its text and its place alone. It stops the
conversion (`ScreenedSuite.Screening.Refuses`), or it is stood for by a token
(`ScreenedSuite.Screening.tokenFor`) and possibly recorded
(`ScreenedSuite.Screening.findingFor?`). Screening the arguments of a step succeeds exactly when
none of them is refused, and yields their tokens and findings in order
(`ScreenedSuite.Screening.screenFrom_eq_ok_iff`); otherwise the first refused one decides
(`ScreenedSuite.Screening.screenFrom_eq_error_iff`).
-/

namespace ScreenedSuite

/-- The role that an argument is screened in, free text where the template knows none. -/
def Template.roleFor (template : Template) (index : Nat) : Role :=
  (template.roleAt index).getD .text

/-- Every argument of an admitted number has a role of its own. -/
theorem Template.roleAt_of_admits {template : Template} {count index : Nat}
    (admitted : template.arity.admits count = true) (inside : index < count) :
    template.roleAt index = some (template.roleFor index) := by
  have present : (template.roleAt index).isSome = true := by
    unfold arity at admitted
    unfold roleAt
    cases rest : template.rest with
    | some role => simp only [Option.or_some, Option.isSome_some]
    | none =>
        simp only [rest, Arity.admits, beq_iff_eq] at admitted
        subst admitted
        simp only [inside, getElem?_pos, Option.some_or, Option.isSome_some]
  obtain ⟨role, known⟩ := Option.isSome_iff_exists.mp present
  rw [roleFor, known, Option.getD_some]

namespace Screening

variable {screening : Screening}

/-- Whether an argument stops the conversion. -/
def Refuses (screening : Screening) (role : Role) (value : String) : Prop :=
  screening.level = .strict ∧ ∃ entry, screening.judge role value = .dangerous entry

/-- Only an argument in the role of a command is ever judged dangerous. -/
theorem judge_eq_dangerous_iff {role : Role} {value : String} {entry : Entry} :
    screening.judge role value = .dangerous entry ↔
      role = .command ∧
        screening.catalog.classify screening.level .command value = .dangerous entry := by
  cases role with
  | text => simp only [judge, Role.screenedBy, reduceCtorEq, false_and]
  | command => simp only [judge, Role.screenedBy, true_and]
  | path =>
      simp only [judge, Role.screenedBy, Catalog.classify, reduceCtorEq, false_and, iff_false]
      cases screening.catalog.flag? screening.level .path value with
      | none => exact Classification.noConfusion
      | some other => exact Classification.noConfusion

/-- The token that stands for an argument. -/
def tokenFor (screening : Screening) (role : Role) (value : String) : Token :=
  match screening.judge role value with
  | .safe => plainToken role value
  | .sensitive _ => .redacted
  | .dangerous _ => .redacted

/-- The finding about an argument, if it is flagged. -/
def findingFor? (screening : Screening) (role : Role) (value : String) (location : Location) :
    Option Finding :=
  match screening.judge role value with
  | .safe => none
  | .sensitive entry => some (flaggedFinding .sensitive entry value location)
  | .dangerous entry => some (flaggedFinding .dangerous entry value location)

/-- An argument that is not refused yields its token and its finding. -/
theorem screen_of_not_refuses {role : Role} {value : String} (location : Location)
    (accepted : ¬ screening.Refuses role value) :
    screening.screen role value location =
      .ok (screening.tokenFor role value, screening.findingFor? role value location) := by
  unfold screen tokenFor findingFor?
  cases judged : screening.judge role value with
  | safe => rfl
  | sensitive entry => rfl
  | dangerous entry =>
      cases level : screening.level with
      | permissive => rfl
      | standard => rfl
      | strict => exact (accepted ⟨level, entry, judged⟩).elim

/-- A refused argument fails with the rule that flags it and a preview of it. -/
theorem screen_of_dangerous {role : Role} {value : String} {entry : Entry} (location : Location)
    (strict : screening.level = .strict) (judged : screening.judge role value = .dangerous entry) :
    screening.screen role value location =
      .error (.securityViolation entry.id entry.pattern location.step (preview value)) := by
  simp only [screen, judged, strict]

theorem screen_eq_ok_iff {role : Role} {value : String} {location : Location} {token : Token}
    {finding : Option Finding} :
    screening.screen role value location = .ok (token, finding) ↔
      ¬ screening.Refuses role value ∧ token = screening.tokenFor role value ∧
        finding = screening.findingFor? role value location := by
  by_cases refused : screening.Refuses role value
  · obtain ⟨strict, entry, judged⟩ := refused
    rw [screen_of_dangerous location strict judged]
    constructor
    · intro absurdity
      cases absurdity
    · intro accepted
      exact (accepted.1 ⟨strict, entry, judged⟩).elim
  · rw [screen_of_not_refuses location refused, Except.ok.injEq, Prod.mk.injEq]
    constructor
    · rintro ⟨rfl, rfl⟩
      exact ⟨refused, rfl, rfl⟩
    · rintro ⟨_, rfl, rfl⟩
      exact ⟨rfl, rfl⟩

theorem screen_eq_error_iff {role : Role} {value : String} {location : Location}
    {failure : Failure} :
    screening.screen role value location = .error failure ↔
      screening.level = .strict ∧ ∃ entry, screening.judge role value = .dangerous entry ∧
        failure = .securityViolation entry.id entry.pattern location.step (preview value) := by
  by_cases refused : screening.Refuses role value
  · obtain ⟨strict, entry, judged⟩ := refused
    rw [screen_of_dangerous location strict judged, Except.error.injEq]
    constructor
    · rintro rfl
      exact ⟨strict, entry, judged, rfl⟩
    · rintro ⟨_, other, otherJudged, rfl⟩
      cases judged.symm.trans otherJudged
      rfl
  · rw [screen_of_not_refuses location refused]
    constructor
    · intro absurdity
      cases absurdity
    · rintro ⟨strict, entry, judged, _⟩
      exact (refused ⟨strict, entry, judged⟩).elim

/-- Screening arguments succeeds exactly when none of them is refused, and yields what stands for
each of them. -/
theorem screenFrom_eq_ok_iff {template : Template} {step index : Nat} {values : List String}
    {tokens : List Token} {findings : List Finding} :
    screening.screenFrom template step index values = .ok (tokens, findings) ↔
      (∀ argument ∈ values.zipIdx index,
        ¬ screening.Refuses (template.roleFor argument.2) argument.1) ∧
      tokens = (values.zipIdx index).map (fun argument =>
        screening.tokenFor (template.roleFor argument.2) argument.1) ∧
      findings = (values.zipIdx index).flatMap (fun argument =>
        (screening.findingFor? (template.roleFor argument.2) argument.1
          ⟨step, some argument.2⟩).toList) := by
  induction values generalizing index tokens findings with
  | nil =>
      simp only [screenFrom, List.zipIdx_nil, List.not_mem_nil, IsEmpty.forall_iff, implies_true,
        List.map_nil, List.flatMap_nil, true_and, Except.ok.injEq, Prod.mk.injEq]
      exact and_congr eq_comm eq_comm
  | cons value rest ih =>
      rw [screenFrom, Outcome.bind_eq_ok_iff]
      simp only [List.zipIdx_cons, List.forall_mem_cons, List.map_cons, List.flatMap_cons]
      constructor
      · rintro ⟨⟨token, finding⟩, screened, remaining⟩
        obtain ⟨⟨others, more⟩, restScreened, same⟩ := Outcome.bind_eq_ok_iff.mp remaining
        obtain ⟨accepted, rfl, rfl⟩ := screen_eq_ok_iff.mp screened
        obtain ⟨restAccepted, rfl, rfl⟩ := ih.mp restScreened
        cases same
        exact ⟨⟨accepted, restAccepted⟩, rfl, rfl⟩
      · rintro ⟨⟨accepted, restAccepted⟩, rfl, rfl⟩
        refine ⟨_, screen_of_not_refuses ⟨step, some index⟩ accepted, ?_⟩
        exact Outcome.bind_eq_ok_iff.mpr ⟨_, ih.mpr ⟨restAccepted, rfl, rfl⟩, rfl⟩

/-- What becomes of arguments is decided by the catalog and the level. -/
theorem screenFrom_congr {first second : Screening} (catalog : first.catalog = second.catalog)
    (level : first.level = second.level) (template : Template) (step index : Nat)
    (values : List String) :
    first.screenFrom template step index values = second.screenFrom template step index values := by
  have alone (role : Role) (value : String) (location : Location) :
      first.screen role value location = second.screen role value location := by
    simp only [screen, judge, catalog, level]
  induction values generalizing index with
  | nil => rfl
  | cons value rest ih => simp only [screenFrom, alone, ih]

theorem screenFrom_eq_error_iff {template : Template} {step index : Nat} {values : List String}
    {failure : Failure} :
    screening.screenFrom template step index values = .error failure ↔
      ∃ position value, values[position]? = some value ∧
        (screening.level = .strict ∧ ∃ entry,
          screening.judge (template.roleFor (index + position)) value = .dangerous entry ∧
            failure = .securityViolation entry.id entry.pattern step (preview value)) ∧
        ∀ argument ∈ (values.take position).zipIdx index,
          ¬ screening.Refuses (template.roleFor argument.2) argument.1 := by
  induction values generalizing index with
  | nil => simp only [screenFrom, reduceCtorEq, List.getElem?_nil, false_and, exists_false]
  | cons value rest ih =>
      rw [screenFrom, Outcome.bind_eq_error_iff]
      constructor
      · rintro (failed | ⟨⟨token, finding⟩, screened, remaining⟩)
        · refine ⟨0, value, rfl, screen_eq_error_iff.mp failed, ?_⟩
          simp only [List.take_zero, List.zipIdx_nil, List.not_mem_nil, IsEmpty.forall_iff,
            implies_true]
        · have failed := Outcome.map_eq_error_iff.mp remaining
          obtain ⟨position, other, found, refused, before⟩ := ih.mp failed
          rw [Nat.add_right_comm, Nat.add_assoc] at refused
          refine ⟨position + 1, other, found, refused, ?_⟩
          rw [List.take_succ_cons, List.zipIdx_cons, List.forall_mem_cons]
          exact ⟨(screen_eq_ok_iff.mp screened).1, before⟩
      · rintro ⟨position, other, found, refused, before⟩
        cases position with
        | zero =>
            cases found
            exact .inl (screen_eq_error_iff.mpr refused)
        | succ position =>
            rw [List.take_succ_cons, List.zipIdx_cons, List.forall_mem_cons] at before
            rw [← Nat.add_assoc, Nat.add_right_comm] at refused
            refine .inr ⟨_, screen_of_not_refuses ⟨step, some index⟩ before.1, ?_⟩
            exact Outcome.map_eq_error_iff.mpr
              (ih.mpr ⟨position, other, found, refused, before.2⟩)

end Screening

end ScreenedSuite
