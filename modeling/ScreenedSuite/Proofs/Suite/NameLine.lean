import ScreenedSuite.Proofs.Cell.Name
import ScreenedSuite.Proofs.TestCase.Reading
import ScreenedSuite.Suite

/-! # The line that names a test case

The name of a test case that was read is not blank, so something of it is left on its line behind
the header. The line has no controls and no two spaces side by side, and no sign at its start makes
it a comment or a header. It stands by itself unless trimming leaves a control at an end of the name
(`ScreenedSuite.Suite.render_nameLine`), as it does behind a control that is no white space
(`ScreenedSuite.Suite.render_control_before_sign`).
-/

namespace ScreenedSuite

theorem TestCase.GivesText.visible {given : Option Json} {text : String}
    (gives : TestCase.GivesText given text) : TestCase.Visible text := by
  cases gives with
  | text visible => exact visible

/-- Trimming leaves something of the name of a test case that was read. -/
theorem TestCase.visible_name {document : Json} {case : TestCase}
    (accepted : TestCase.ofJson? document = .ok case) : TestCase.Visible case.name := by
  cases (TestCase.ofJson?_settles document).eq_ok_iff.mp accepted with
  | object name_given => exact name_given.visible

namespace Suite

/-- The text of a suite up to the line of the name. -/
def heading (width : Nat) (conversion : Conversion) : String :=
  String.join ((settingsLines (separator width) (libraries conversion.statements)).map (· ++ "\n"))
    ++ "*** Test Cases ***\n"

theorem render_eq (width : Nat) (conversion : Conversion) : ∃ rest,
    render width conversion =
      heading width conversion ++ Cell.ofName conversion.name ++ "\n" ++ rest := by
  refine ⟨String.join (((rows conversion).map (rowLine (separator width))).map (· ++ "\n")), ?_⟩
  rw [← String.toList_inj, render, lines, heading]
  simp only [String.toList_append, String.toList_join, List.map_append, List.map_cons,
    List.flatMap_append, List.flatMap_cons, List.append_assoc]
  rfl

/-- **The line that names a test case.** Behind the header stands a line for the name, with what
trimming leaves of it. The line stands by itself just when this has a control at neither end: a
control is shown as a space, and a sign for a comment or a header behind it is not escaped. -/
theorem render_nameLine {document : Json} {case : TestCase}
    (accepted : TestCase.ofJson? document = .ok case) :
    (∀ width (conversion : Conversion), conversion.name = case.name → ∃ rest,
      render width conversion =
        heading width conversion ++ Cell.ofName case.name ++ "\n" ++ rest) ∧
    Cell.NameShape case.name.toList (Cell.ofName case.name).toList ∧
    (Cell.StandsAlone (Cell.ofName case.name).toList ↔
      (∀ c ∈ (Unicode.trim case.name.toList).head?, Cell.isControl c = false) ∧
        ∀ c ∈ (Unicode.trim case.name.toList).getLast?, Cell.isControl c = false) := by
  have line : (Cell.ofName case.name).toList = Cell.nameLine case.name.toList :=
    String.toList_ofList
  have shape := Cell.nameLine_shape (TestCase.visible_name accepted)
  rw [← line] at shape
  refine ⟨fun width conversion same => ?_, shape, shape.standsAlone_iff⟩
  rw [← same]
  exact render_eq width conversion

/-- A name with a bell between spaces, and a sign at its start. -/
theorem render_nameLine_bell_between_spaces :
    let document : Json := .object [("name", .string " # night \u0007 build\n"), ("steps", .array [])]
    let case : TestCase := { name := " # night \u0007 build\n" }
    TestCase.ofJson? document = .ok case ∧ Cell.ofName case.name = r"\# night build" ∧
      Cell.StandsAlone (Cell.ofName case.name).toList := by
  intro document case
  have accepted : TestCase.ofJson? document = .ok case := by decide +kernel
  have trimmed : Unicode.trim case.name.toList = "# night \u0007 build".toList := by decide +kernel
  refine ⟨accepted, by decide +kernel, (render_nameLine accepted).2.2.mpr ?_⟩
  rw [trimmed]
  constructor
  · intro c first
    cases first
    rfl
  · intro c last
    cases last
    rfl

/-- A control that is no white space hides the sign behind it, and leaves the line of the name a
comment. -/
theorem render_control_before_sign :
    let document : Json := .object [("name", .string "\u0001# weird"), ("steps", .array [])]
    let case : TestCase := { name := "\u0001# weird" }
    TestCase.ofJson? document = .ok case ∧
      render 4 ⟨case.name, none, [], [], []⟩ = "*** Test Cases ***\n # weird\n    No Operation\n" ∧
      ¬ Cell.StandsAlone (Cell.ofName case.name).toList := by
  intro document case
  have line : Cell.ofName case.name = " # weird" := by decide +kernel
  refine ⟨by decide +kernel, by decide +kernel, fun alone => alone.first ?_⟩
  rw [line]
  rfl

end Suite

end ScreenedSuite
