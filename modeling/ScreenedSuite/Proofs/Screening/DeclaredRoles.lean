import ScreenedSuite.Proofs.Screening.Exactness
import ScreenedSuite.Proofs.Screening.Failures

/-! # Declared roles

A template declares a role for each of its required arguments, and possibly one for all further
arguments. The number of arguments that it takes is just such that every one of them has a declared
role (`ScreenedSuite.Template.admits_iff_declares`). The role that stands in for a missing one is
therefore never used, and whatever is declared as a command or a path is screened as one
(`ScreenedSuite.Screening.convertMapped_inDeclaredRoles`).
-/

namespace ScreenedSuite

namespace Template

/-- The roles that a template declares for the arguments, by their positions. -/
inductive Declares (template : Template) : Nat → Role → Prop
  | required {position : Nat} {role : Role} (listed : template.roles[position]? = some role) :
      Declares template position role
  | further {position : Nat} {role : Role} (behind : template.roles.length ≤ position)
      (rest : template.rest = some role) : Declares template position role

variable {template : Template} {count position : Nat} {role : Role}

theorem roleAt_eq_some_iff :
    template.roleAt position = some role ↔ template.Declares position role := by
  rw [roleAt, Option.or_eq_some_iff, List.getElem?_eq_none_iff]
  constructor
  · rintro (listed | ⟨behind, rest⟩)
    · exact .required listed
    · exact .further behind rest
  · rintro (listed | ⟨behind, rest⟩)
    · exact .inl listed
    · exact .inr ⟨behind, rest⟩

theorem least_arity (template : Template) : template.arity.least = template.roles.length := by
  unfold arity
  cases template.rest with
  | none => rfl
  | some role => rfl

/-- A number of arguments is accepted when it covers the required ones and each of the arguments has
a declared role. -/
theorem admits_iff_declares : template.arity.admits count = true ↔
    template.roles.length ≤ count ∧
      ∀ position < count, ∃ role, template.Declares position role := by
  constructor
  · intro admitted
    exact ⟨least_arity template ▸ (Arity.admits_iff.mp admitted).1, fun position inside =>
      ⟨_, roleAt_eq_some_iff.mp (roleAt_of_admits admitted inside)⟩⟩
  · rintro ⟨enough, declared⟩
    unfold arity
    cases rest : template.rest with
    | some role => simpa only [Arity.admits, decide_eq_true_eq] using enough
    | none =>
        simp only [Arity.admits, beq_iff_eq]
        by_contra different
        -- Without further arguments the first one behind the required ones has no role.
        obtain ⟨role, listed | ⟨_, given⟩⟩ :=
          declared template.roles.length (Nat.lt_of_le_of_ne enough (Ne.symm different))
        · exact absurd (List.getElem?_eq_some_iff.mp listed).1 (Nat.lt_irrefl _)
        · rw [rest] at given
          cases given

end Template

namespace Screening

/-- The tokens and findings for the arguments of a step from an index on, where an argument without
a role gets a role of choice. -/
def screenFromOr (screening : Screening) (fallback : Role) (template : Template) (step : Nat)
    (index : Nat) : List String → Except Failure (List Token × List Finding)
  | [] => .ok ([], [])
  | value :: rest => do
    let role := (template.roleAt index).getD fallback
    let (token, finding) ← screening.screen role value ⟨step, some index⟩
    let (tokens, findings) ← screening.screenFromOr fallback template step (index + 1) rest
    return (token :: tokens, finding.toList ++ findings)

/-- The main statement of a step: in front a token for each argument, screened in the role that the
template declares there, and behind them the literals of the template. -/
structure IsMain (screening : Screening) (template : Template) (args : List String)
    (main : Statement) : Prop where
  count : main.args.length = args.length + template.trailing.length
  inputs : ∀ position value role, args[position]? = some value →
    template.Declares position role →
      ∃ token, main.args[position]? = some token ∧ screening.StandsFor role value token
  literals : main.args.drop args.length = template.trailing.map Token.generated

/-- A step is converted in the roles that its template declares. Every argument has one of them, so
it does not matter which role an argument without a role would get. Either all arguments stand in
the main statement, or one that is declared as a command is dangerous and stops the conversion. -/
structure InDeclaredRoles (screening : Screening) (template : Template) (index : Nat)
    (step : Step) : Prop where
  bounds : template.arity.InRange step.args.length
  declared : ∀ position < step.args.length, ∃ role,
    template.roleAt position = some role ∧ template.Declares position role
  fallback : ∀ fallback, screening.screenFromOr fallback template index 0 step.args =
    screening.screenFrom template index 0 step.args
  converted : ∀ piece, screening.convertMapped template index step = .ok piece → ∃ main,
    piece.statements = main :: template.followUps.map FollowUp.statement ∧
      screening.IsMain template step.args main
  refused : ∀ failure, screening.convertMapped template index step = .error failure →
    screening.level = .strict ∧ ∃ position value entry, step.args[position]? = some value ∧
      template.Declares position .command ∧
        screening.catalog.classify .strict .command value = .dangerous entry ∧
          failure = .securityViolation entry.id entry.pattern index (preview value)

variable {screening : Screening} {template : Template}

/-- Where each argument has a role, no other is asked for. -/
theorem screenFromOr_eq_screenFrom (fallback : Role) (step : Nat) {index : Nat}
    {values : List String}
    (declared : ∀ position < values.length, (template.roleAt (index + position)).isSome = true) :
    screening.screenFromOr fallback template step index values =
      screening.screenFrom template step index values := by
  induction values generalizing index with
  | nil => rfl
  | cons value rest ih =>
      obtain ⟨role, known⟩ := Option.isSome_iff_exists.mp (declared 0 (Nat.succ_pos _))
      rw [Nat.add_zero] at known
      have later : screening.screenFromOr fallback template step (index + 1) rest =
          screening.screenFrom template step (index + 1) rest := ih fun position inside => by
        have here := declared (position + 1) (Nat.succ_lt_succ inside)
        rwa [← Nat.add_assoc, Nat.add_right_comm] at here
      simp only [screenFromOr, screenFrom, known, Option.getD_some, later]

/-- **Every argument is screened in its declared role.** -/
theorem convertMapped_inDeclaredRoles {step : Step}
    (admitted : template.arity.admits step.args.length = true) (index : Nat) :
    screening.InDeclaredRoles template index step := by
  have known (position : Nat) (inside : position < step.args.length) : ∃ role,
      template.roleAt position = some role ∧ template.Declares position role := by
    obtain ⟨role, declares⟩ := (Template.admits_iff_declares.mp admitted).2 position inside
    exact ⟨role, Template.roleAt_eq_some_iff.mpr declares, declares⟩
  refine ⟨Arity.admits_iff.mp admitted, known, fun fallback => ?_, fun piece converted => ?_,
    fun failure failed => ?_⟩
  · refine screenFromOr_eq_screenFrom fallback index fun position inside => ?_
    obtain ⟨role, found, _⟩ := known position inside
    rw [Nat.zero_add, found, Option.isSome_some]
  · rw [convertMapped, if_pos admitted] at converted
    obtain ⟨⟨tokens, findings⟩, screened, same⟩ := Outcome.bind_eq_ok_iff.mp converted
    obtain ⟨_, rfl, rfl⟩ := screenFrom_eq_ok_iff.mp screened
    cases same
    refine ⟨template.mainStatement (screening.tokensFor template step.args), rfl,
      length_mainStatement screening template step.args,
      fun position value role given declares => ?_, drop_mainStatement screening template step.args⟩
    obtain ⟨other, token, found, there, stands⟩ := mainStatement_input screening admitted given
    cases found.symm.trans (Template.roleAt_eq_some_iff.mpr declares)
    exact ⟨token, there, stands⟩
  · rw [convertMapped, if_pos admitted] at failed
    rcases Outcome.bind_eq_error_iff.mp failed with refused | ⟨_, _, absurdity⟩
    · obtain ⟨position, value, entry, strict, given, role, judged, _, rfl⟩ :=
        screenFrom_zero_eq_error_iff.mp refused
      exact ⟨strict, position, value, entry, given, Template.roleAt_eq_some_iff.mp role, judged,
        rfl⟩
    · cases absurdity

/-- A template with a path and any number of commands: the second command is withheld. -/
theorem convertMapped_inDeclaredRoles_commands :
    let screening : Screening := ⟨.builtin, .builtin, .reject, .permissive⟩
    let template : Template := {
      keyword := "Run In", roles := [.path], rest := some .command, trailing := ["shell=True"] }
    let step : Step := ⟨"run_in", ["a", "ls", "rm /"]⟩
    template.arity.admits step.args.length = true ∧
      screening.InDeclaredRoles template 0 step ∧
        (screening.convertMapped template 0 step).map Piece.statements = .ok [
          ⟨none, "Run In", [.screened "a", .screened "ls", .redacted,
            .generated "shell=True"], none⟩] := by
  intro screening template step
  have admitted : template.arity.admits step.args.length = true := by decide
  exact ⟨admitted, convertMapped_inDeclaredRoles admitted 0, by decide +kernel⟩

end Screening

end ScreenedSuite
