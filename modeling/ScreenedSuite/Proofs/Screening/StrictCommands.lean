import ScreenedSuite.Proofs.Catalog.Surroundings
import ScreenedSuite.Proofs.Screening.Exactness

/-! # Commands at the strict level

At the strict level a conversion withholds no command: it shows each of them as it was given, or it
fails. What it shows holds none of the fragments by which a shell joins, redirects and nests
commands on a line (`ScreenedSuite.Screening.convert_strict_withoutMetacharacters`). A line feed is
not among them, so a command may run over several lines
(`ScreenedSuite.Screening.convert_strict_twoLines`).
-/

namespace ScreenedSuite.Screening

/-- Screening by the built-in rules and actions at the strict level. -/
def strict (unmapped : UnmappedPolicy) : Screening :=
  ⟨.builtin, .builtin, unmapped, .strict⟩

variable {unmapped : UnmappedPolicy}

/-- What the strict level lets pass as a command holds no metacharacter. -/
theorem not_infix_of_safe {value fragment : String}
    (safe : Catalog.builtin.classify .strict .command value = .safe)
    (member : fragment ∈ Rule.metacharacters) : ¬ fragment.toList <:+: value.toList := by
  intro held
  obtain ⟨rule, active, spells⟩ := Rule.exists_spells member
  have occurs : rule.compiled.Occurs value.toList := Pattern.occurs_of_spells spells held
  obtain ⟨entry, dangerous⟩ := Catalog.exists_dangerous_iff.mpr ⟨rule, active, occurs⟩
  rw [safe] at dangerous
  cases dangerous

/-- A command of a step that is converted was let pass. -/
theorem safe_of_accepts {step : Step} (accepted : (strict unmapped).Accepts step)
    {template : Template} (found : ActionTable.builtin.get? step.action = some template)
    {position : Nat} {value : String} (given : step.args[position]? = some value)
    (role : template.roleAt position = some .command) :
    Catalog.builtin.classify .strict .command value = .safe := by
  cases judged : Catalog.builtin.classify .strict .command value with
  | safe => rfl
  | sensitive entry =>
      unfold Catalog.classify at judged
      cases flagged : Catalog.builtin.flag? .strict .command value with
      | none => simp [flagged] at judged
      | some other => simp [flagged, Classification.flagged] at judged
  | dangerous entry =>
      have everyArgument : ∀ argument ∈ step.args.zipIdx,
          ¬ (strict unmapped).Refuses (template.roleFor argument.2) argument.1 := by
        unfold Accepts at accepted
        simp only [show (strict unmapped).actions.get? step.action = some template from found]
          at accepted
        exact accepted.2
      have refused : (strict unmapped).judge (template.roleFor position) value =
          .dangerous entry := by
        simp only [judge, Template.roleFor, role, Option.getD_some, Role.screenedBy]
        exact judged
      have member := List.mk_mem_zipIdx_iff_getElem?.mpr given
      exact (everyArgument _ member ⟨rfl, entry, refused⟩).elim

/-- The statements of a step show its commands, none of which holds a metacharacter. -/
def ShowsPlainCommands (step : Step) (block : List Statement) : Prop :=
  ∀ template, ActionTable.builtin.get? step.action = some template →
    ∃ main following, block = main :: following ∧
      ∀ position value, step.args[position]? = some value →
        template.roleAt position = some .command →
          main.args[position]? = some (.screened value) ∧
            ∀ fragment ∈ Rule.metacharacters, ¬ fragment.toList <:+: value.toList

theorem statementsFor_showsPlainCommands {step : Step}
    (accepted : (strict unmapped).Accepts step) :
    ShowsPlainCommands step ((strict unmapped).statementsFor step) := by
  intro template found
  have realized := statementsFor_realizes accepted
  generalize (strict unmapped).statementsFor step = block at realized ⊢
  cases realized with
  | unmapped absent => cases found.symm.trans absent
  | @mapped other main following otherFound _ inputs =>
      cases found.symm.trans otherFound
      refine ⟨main, following, rfl, fun position value given role => ?_⟩
      have safe := safe_of_accepts accepted found given role
      obtain ⟨otherRole, token, known, shown, standsFor⟩ := inputs position value given
      cases role.symm.trans known
      refine ⟨?_, fun fragment member => not_infix_of_safe safe member⟩
      cases standsFor with
      | passed => exact shown
      | withheld screened flagged =>
          cases screened
          exact (flagged safe).elim

/-- **A strict script holds no compound command on one line.** Each command argument is shown as
it was given, and holds no separator, no redirection and no substitution. -/
theorem convert_strict_withoutMetacharacters {case : TestCase} {conversion : Conversion}
    (done : (strict unmapped).convert case = .ok conversion) :
    ∃ blocks, conversion.statements = blocks.flatten ∧
      List.Forall₂ ShowsPlainCommands case.steps blocks := by
  obtain ⟨accepted, rfl⟩ := convert_eq_ok_iff.mp done
  refine ⟨case.steps.map (strict unmapped).statementsFor, List.flatMap_def, ?_⟩
  rw [List.forall₂_map_right_iff, List.forall₂_same]
  intro step member
  exact statementsFor_showsPlainCommands (accepted step member)

/-- A test case with a command of two lines. -/
def twoLines : TestCase where
  name := "two lines"
  steps := [⟨"start_process", ["ls\nwhoami"]⟩]

/-- What it becomes. -/
def twoLinesConverted : Conversion where
  name := "two lines"
  documentation := none
  tags := []
  statements := [
    ⟨none, "Start Process", [.screened "ls\nwhoami", .generated "shell=True"], some "Process"⟩]
  findings := []

theorem convert_twoLines : (strict .reject).convert twoLines = .ok twoLinesConverted := by
  decide +kernel

/-- The command of two lines holds no metacharacter. -/
theorem convert_strict_withoutMetacharacters_twoLines :
    (strict .reject).convert twoLines = .ok twoLinesConverted ∧
      ∃ blocks, twoLinesConverted.statements = blocks.flatten ∧
        List.Forall₂ ShowsPlainCommands twoLines.steps blocks :=
  ⟨convert_twoLines, convert_strict_withoutMetacharacters convert_twoLines⟩

/-- A line feed passes the strict level: a shell reads two commands here. -/
theorem convert_strict_twoLines :
    ∃ conversion statement token, (strict .reject).convert twoLines = .ok conversion ∧
      statement ∈ conversion.statements ∧ token ∈ statement.args ∧
        token.provenance = .screened ∧ '\n' ∈ token.value.toList := by
  refine ⟨twoLinesConverted, _, .screened "ls\nwhoami", convert_twoLines, List.mem_singleton_self _,
    List.mem_cons_self, rfl, ?_⟩
  decide

end ScreenedSuite.Screening
