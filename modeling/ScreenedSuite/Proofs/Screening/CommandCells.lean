import ScreenedSuite.Proofs.Cell.EqualsSigns
import ScreenedSuite.Proofs.Screening.Exactness
import ScreenedSuite.Suite

/-! # Commands in their cells

The built-in actions on commands call keywords that take any named arguments, so the cell of a
command is read as the command only if it has no bare equals sign. The cell of a command that is
shown has one just when an equals sign of the command is past a name at its start
(`ScreenedSuite.Screening.convert_builtin_commandCells`), as in a call of `make` with a variable
(`ScreenedSuite.Screening.convert_builds_bareEquals`).
-/

namespace ScreenedSuite.Screening

/-- The keywords that are called with commands. -/
def processKeywords : List String :=
  ["Run Process", "Start Process"]

theorem builtin_processKeywords : ∀ entry ∈ ActionTable.builtin.entries,
    Role.command ∈ entry.2.roles ∨ entry.2.rest = some .command →
      entry.2.keyword ∈ processKeywords := by
  decide +kernel

theorem keyword_mem_processKeywords {action : String} {template : Template}
    (found : ActionTable.builtin.get? action = some template) {position : Nat}
    (role : template.roleAt position = some .command) : template.keyword ∈ processKeywords := by
  obtain ⟨entry, foundEntry, rfl⟩ := Option.map_eq_some_iff.mp found
  apply builtin_processKeywords entry (List.mem_of_find?_eq_some foundEntry)
  rw [Template.roleAt, Option.or_eq_some_iff] at role
  rcases role with required | ⟨_, further⟩
  · exact .inl (List.mem_of_getElem? required)
  · exact .inr further

/-- The statements of a step show each of its commands, unless it is withheld, in a cell of a call
of a process keyword, which has a bare equals sign just when the command has one past a name. -/
def ShowsCommandCells (step : Step) (block : List Statement) : Prop :=
  ∀ template, ActionTable.builtin.get? step.action = some template →
    ∀ position value, step.args[position]? = some value →
      template.roleAt position = some .command →
        ∃ main following token, block = main :: following ∧ main.keyword ∈ processKeywords ∧
          main.args[position]? = some token ∧
          Cell.ofToken token ∈ Suite.statementCells main ∧
          (token = .redacted ∨ token = .screened value) ∧
          (Cell.BareEquals (Cell.ofToken token).toList ↔
            token = .screened value ∧ Cell.EqualsPastName value.toList)

variable {catalog : Catalog} {level : Level} {unmapped : UnmappedPolicy}

theorem bareEquals_ofToken_screened (value : String) :
    Cell.BareEquals (Cell.ofToken (.screened value)).toList ↔
      Cell.EqualsPastName value.toList := by
  change Cell.BareEquals (Cell.ofArgument value).toList ↔ _
  rw [Cell.ofArgument, String.toList_ofList]
  exact Cell.bareEquals_escape_iff value.toList

theorem statementsFor_showsCommandCells {step : Step}
    (accepted : (⟨catalog, .builtin, unmapped, level⟩ : Screening).Accepts step) :
    ShowsCommandCells step
      ((⟨catalog, .builtin, unmapped, level⟩ : Screening).statementsFor step) := by
  intro template found position value given role
  have realized := statementsFor_realizes accepted
  have keyword : ∀ main ∈ ((⟨catalog, .builtin, unmapped, level⟩ : Screening).statementsFor
      step).head?, main.keyword = template.keyword := by
    simp only [statementsFor, found]
    rintro main ⟨⟩
    rfl
  generalize (⟨catalog, .builtin, unmapped, level⟩ : Screening).statementsFor step = block
    at realized keyword ⊢
  cases realized with
  | unmapped absent => cases found.symm.trans absent
  | @mapped other main following otherFound _ inputs =>
      cases found.symm.trans otherFound
      obtain ⟨otherRole, token, known, shown, standsFor⟩ := inputs position value given
      cases role.symm.trans known
      have called : main.keyword ∈ processKeywords := by
        rw [keyword main rfl]
        exact keyword_mem_processKeywords found role
      have inRow : Cell.ofToken token ∈ Suite.statementCells main := by
        apply List.mem_append_right
        exact List.mem_cons_of_mem _ (List.mem_map_of_mem (List.mem_of_getElem? shown))
      refine ⟨main, following, token, rfl, called, shown, inRow, ?_⟩
      cases standsFor with
      | passed =>
          refine ⟨.inr rfl, (bareEquals_ofToken_screened value).trans ?_⟩
          rw [eq_self, true_and]
      | withheld =>
          have placeholder : ¬ Cell.BareEquals (Cell.ofToken .redacted).toList := by decide
          refine ⟨.inl rfl, iff_of_false placeholder ?_⟩
          rintro ⟨same, _⟩
          cases same

/-- **Which commands are taken for named arguments.** With the built-in actions, any catalog and
any level, each command argument stands in a cell of a call that takes named arguments. That cell
has a bare equals sign just when the command is shown and has an equals sign past a name at its
start. -/
theorem convert_builtin_commandCells {case : TestCase} {conversion : Conversion}
    (done : (⟨catalog, .builtin, unmapped, level⟩ : Screening).convert case = .ok conversion) :
    ∃ blocks, conversion.statements = blocks.flatten ∧
      List.Forall₂ ShowsCommandCells case.steps blocks := by
  obtain ⟨accepted, rfl⟩ := convert_eq_ok_iff.mp done
  refine ⟨case.steps.map (statementsFor ⟨catalog, .builtin, unmapped, level⟩), List.flatMap_def, ?_⟩
  rw [List.forall₂_map_right_iff, List.forall₂_same]
  intro step member
  exact statementsFor_showsCommandCells (accepted step member)

/-- A test case with two commands that set a variable: before the call and in it. -/
def builds : TestCase where
  name := "builds"
  steps := [⟨"start_process", ["CC=gcc make"]⟩, ⟨"start_process", ["make CC=gcc"]⟩]

/-- What it becomes. -/
def buildsConverted : Conversion where
  name := "builds"
  documentation := none
  tags := []
  statements := [
    ⟨none, "Start Process", [.screened "CC=gcc make", .generated "shell=True"], some "Process"⟩,
    ⟨none, "Start Process", [.screened "make CC=gcc", .generated "shell=True"], some "Process"⟩]
  findings := []

theorem convert_builds :
    (⟨.builtin, .builtin, .reject, .standard⟩ : Screening).convert builds = .ok buildsConverted := by
  decide +kernel

theorem convert_builtin_commandCells_builds :
    (⟨.builtin, .builtin, .reject, .standard⟩ : Screening).convert builds = .ok buildsConverted ∧
      ∃ blocks, buildsConverted.statements = blocks.flatten ∧
        List.Forall₂ ShowsCommandCells builds.steps blocks :=
  ⟨convert_builds, convert_builtin_commandCells convert_builds⟩

/-- A variable that is set in the call makes the command a named argument. -/
theorem convert_builds_bareEquals :
    ∃ conversion statement token,
      (⟨.builtin, .builtin, .reject, .standard⟩ : Screening).convert builds = .ok conversion ∧
        statement ∈ conversion.statements ∧ statement.keyword ∈ processKeywords ∧
        token ∈ statement.args ∧ token = .screened "make CC=gcc" ∧
        Cell.BareEquals (Cell.ofToken token).toList := by
  refine ⟨buildsConverted, _, .screened "make CC=gcc", convert_builds,
    List.mem_cons_of_mem _ (List.mem_singleton_self _), ?_, List.mem_cons_self, rfl, ?_⟩
  · decide
  · decide

end ScreenedSuite.Screening
