import ScreenedSuite.ActionTable.Builtin
import ScreenedSuite.Proofs.Cell.Plain
import ScreenedSuite.Proofs.Screening.Steps
import ScreenedSuite.Suite

/-! # Literals of action tables

Literals of templates are written into a suite as they stand. A table whose literals are plain
cells, like the built-in one (`ScreenedSuite.ActionTable.builtin_plain`), yields statements all of
whose cells are plain (`ScreenedSuite.Screening.plain_of_convert_eq_ok`), since whatever comes from
a test case is escaped.
-/

namespace ScreenedSuite

/-- The literals of a following call. -/
def FollowUp.literals (followUp : FollowUp) : List String :=
  followUp.keyword :: followUp.args ++ followUp.library.toList

/-- The literals of a template. -/
def Template.literals (template : Template) : List String :=
  template.keyword :: template.trailing ++ template.assign.toList ++ template.library.toList ++
    template.followUps.flatMap FollowUp.literals

/-- A table whose literals are cells by themselves. -/
def ActionTable.Plain (table : ActionTable) : Prop :=
  ∀ entry ∈ table.entries, ∀ literal ∈ entry.2.literals, Cell.Plain literal.toList

instance (table : ActionTable) : Decidable table.Plain :=
  inferInstanceAs (Decidable (∀ entry ∈ table.entries, ∀ literal ∈ entry.2.literals,
    Cell.Plain literal.toList))

/-- The literals of the built-in actions are plain. -/
theorem ActionTable.builtin_plain : builtin.Plain := by
  decide +kernel

/-- The template of an action has plain literals if its table has. -/
theorem ActionTable.Plain.get? {table : ActionTable} (plain : table.Plain) {name : String}
    {template : Template} (found : table.get? name = some template) :
    ∀ literal ∈ template.literals, Cell.Plain literal.toList := by
  obtain ⟨entry, foundEntry, rfl⟩ := Option.map_eq_some_iff.mp found
  exact plain entry (List.mem_of_find?_eq_some foundEntry)

/-- A statement whose cells, and whose library, are cells by themselves. -/
structure Statement.Plain (statement : Statement) : Prop where
  cells : ∀ cell ∈ Suite.statementCells statement, Cell.Plain cell.toList
  library : ∀ library, statement.library = some library → Cell.Plain library.toList

theorem Cell.ofArgument_plain (value : String) : Plain (ofArgument value).toList := by
  rw [ofArgument, String.toList_ofList]
  exact escape_plain value.toList

/-- A statement is plain if its parts are. -/
theorem Statement.Plain.of_parts {statement : Statement}
    (assign : ∀ target, statement.assign = some target → Cell.Plain target.toList)
    (keyword : Cell.Plain statement.keyword.toList)
    (args : ∀ token ∈ statement.args, Cell.Plain (Cell.ofToken token).toList)
    (library : ∀ library, statement.library = some library → Cell.Plain library.toList) :
    statement.Plain := by
  refine ⟨fun cell member => ?_, library⟩
  rw [Suite.statementCells, List.mem_append, Option.mem_toList, List.mem_cons,
    List.mem_map] at member
  rcases member with target | rfl | ⟨token, tokenMember, rfl⟩
  · obtain ⟨name, assigned, rfl⟩ := Option.map_eq_some_iff.mp target
    rw [String.toList_append]
    exact (assign name assigned).append_equals
  · exact keyword
  · exact args token tokenMember

/-- A following call with plain literals is a plain statement. -/
theorem FollowUp.statement_plain {followUp : FollowUp}
    (plain : ∀ literal ∈ followUp.literals, Cell.Plain literal.toList) :
    followUp.statement.Plain := by
  unfold literals at plain
  refine .of_parts (fun target assigned => ?_) ?_ ?_ ?_
  · cases assigned
  · exact plain followUp.keyword List.mem_cons_self
  · intro token member
    obtain ⟨literal, given, rfl⟩ := List.mem_map.mp member
    exact plain literal (List.mem_cons_of_mem _ (List.mem_append_left _ given))
  · intro library needed
    have given : library ∈ followUp.library.toList := Option.mem_toList.mpr needed
    exact plain library (List.mem_cons_of_mem _ (List.mem_append_right _ given))

/-- The main call of a template with plain literals is a plain statement if its arguments have plain
cells. -/
theorem Template.mainStatement_plain {template : Template}
    (plain : ∀ literal ∈ template.literals, Cell.Plain literal.toList) {args : List Token}
    (argsPlain : ∀ token ∈ args, Cell.Plain (Cell.ofToken token).toList) :
    (template.mainStatement args).Plain := by
  refine .of_parts ?_ ?_ ?_ ?_
  · intro target assigned
    have given : target ∈ template.assign.toList := Option.mem_toList.mpr assigned
    refine plain target ?_
    simp only [literals, List.mem_append, given, or_true, true_or]
  · refine plain template.keyword ?_
    simp only [literals, List.cons_append, List.mem_cons, true_or]
  · intro token member
    rcases List.mem_append.mp member with ofArgument | trailing
    · exact argsPlain token ofArgument
    · obtain ⟨literal, given, rfl⟩ := List.mem_map.mp trailing
      refine plain literal ?_
      simp only [literals, List.mem_append, List.mem_cons, given, or_true, true_or]
  · intro library needed
    have given : library ∈ template.library.toList := Option.mem_toList.mpr needed
    refine plain library ?_
    simp only [literals, List.mem_append, given, or_true, true_or]

theorem Template.literals_followUp {template : Template} {followUp : FollowUp}
    (member : followUp ∈ template.followUps) {literal : String}
    (given : literal ∈ followUp.literals) : literal ∈ template.literals :=
  List.mem_append_right _ (List.mem_flatMap.mpr ⟨followUp, member, given⟩)

namespace Screening

variable {screening : Screening}

theorem ofToken_tokenFor_plain (role : Role) (value : String) :
    Cell.Plain (Cell.ofToken (screening.tokenFor role value)).toList := by
  have withheld : Cell.Plain (Cell.ofToken .redacted).toList := by decide
  unfold tokenFor
  cases screening.judge role value with
  | safe =>
      cases role with
      | command => exact Cell.ofArgument_plain value
      | path => exact Cell.ofArgument_plain value
      | text => exact Cell.ofArgument_plain value
  | sensitive _ => exact withheld
  | dangerous _ => exact withheld

theorem commentStatement_plain (step : Step) : (commentStatement step).Plain := by
  have keyword : Cell.Plain "Comment".toList := by decide
  refine .of_parts (fun target assigned => ?_) keyword ?_ (fun library needed => ?_)
  · cases assigned
  · intro token member
    rcases List.mem_cons.mp member with rfl | given
    · exact Cell.ofArgument_plain _
    · obtain ⟨value, _, rfl⟩ := List.mem_map.mp given
      exact Cell.ofArgument_plain value
  · cases needed

/-- With a plain table the statements of a step are plain. -/
theorem statementsFor_plain (plain : screening.actions.Plain) {step : Step} {statement : Statement}
    (member : statement ∈ screening.statementsFor step) : statement.Plain := by
  unfold statementsFor at member
  cases found : screening.actions.get? step.action with
  | none =>
      rw [found] at member
      cases List.mem_singleton.mp member
      exact commentStatement_plain step
  | some template =>
      rw [found] at member
      have literals := plain.get? found
      rcases List.mem_cons.mp member with rfl | following
      · refine Template.mainStatement_plain literals fun token given => ?_
        obtain ⟨argument, _, rfl⟩ := List.mem_map.mp given
        exact ofToken_tokenFor_plain _ _
      · obtain ⟨followUp, called, rfl⟩ := List.mem_map.mp following
        exact FollowUp.statement_plain fun literal given =>
          literals literal (Template.literals_followUp called given)

/-- With a plain table all statements of a conversion are plain. -/
theorem plain_of_convert_eq_ok (plain : screening.actions.Plain) {case : TestCase}
    {conversion : Conversion} (done : screening.convert case = .ok conversion) :
    ∀ statement ∈ conversion.statements, statement.Plain := by
  obtain ⟨_, rfl⟩ := convert_eq_ok_iff.mp done
  intro statement member
  obtain ⟨step, _, ofStep⟩ := List.mem_flatMap.mp member
  exact statementsFor_plain plain ofStep

end Screening

end ScreenedSuite
