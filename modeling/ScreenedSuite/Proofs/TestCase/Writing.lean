import ScreenedSuite.Proofs.Json.Members
import ScreenedSuite.Proofs.TestCase.Reading

/-! # Writing test cases

A test case is written as an object with its name, its tags, its steps and, if there is one, its
documentation, in any order. The compact text of the object is read as the test case, provided that
the name and the actions are not blank (`ScreenedSuite.TestCase.ofText?_compact_json`). Nothing is
asked of the other texts.
-/

namespace ScreenedSuite

/-- The members of the object for a step. -/
def Step.members (step : Step) : List (String × Json) :=
  [("action", .string step.action), ("args", .array (step.args.map .string))]

/-- Objects that write a step. -/
inductive Step.Writes : Step → Json → Prop
  | object {step : Step} {members : List (String × Json)}
      (arranged : members.Perm step.members) : Writes step (.object members)

namespace TestCase

/-- The members of the object for a test case whose steps are written as given. -/
def members (case : TestCase) (steps : List Json) : List (String × Json) :=
  ("name", .string case.name)
    :: optionalMember "documentation" (case.documentation.map .string)
    ++ [("tags", .array (case.tags.map .string)), ("steps", .array steps)]

/-- Objects that write a test case. -/
inductive Writes : TestCase → Json → Prop
  | object {case : TestCase} {members : List (String × Json)} {steps : List Json}
      (written : List.Forall₂ Step.Writes case.steps steps)
      (arranged : members.Perm (case.members steps)) : Writes case (.object members)

/-- The object for a test case. -/
def json (case : TestCase) : Json :=
  .object (case.members (case.steps.map fun step => .object step.members))

/-- A test case whose name and actions are not blank. -/
structure Presentable (case : TestCase) : Prop where
  name : Visible case.name
  actions : ∀ step ∈ case.steps, Visible step.action

instance : DecidablePred Visible :=
  fun text => inferInstanceAs (Decidable (Unicode.trim text.toList ≠ []))

instance (case : TestCase) : Decidable case.Presentable :=
  decidable_of_iff (Visible case.name ∧ ∀ step ∈ case.steps, Visible step.action)
    ⟨fun ⟨name, actions⟩ => ⟨name, actions⟩,
      fun presentable => ⟨presentable.name, presentable.actions⟩⟩

theorem writes_json (case : TestCase) : case.Writes case.json := by
  refine .object ?_ (.refl _)
  rw [List.forall₂_map_right_iff, List.forall₂_same]
  exact fun step _ => .object (.refl _)

/-! ## Written objects are read -/

variable {case : TestCase} {step : Step} {document : Json}

theorem texts_readable (texts : List String) (depth : Nat) :
    Json.Readable (depth + 1) (.array (texts.map .string)) := by
  apply Json.Readable.array
  intro item member
  obtain ⟨text, _, rfl⟩ := List.mem_map.mp member
  exact .string text

end TestCase

namespace Step

variable {step : Step} {document : Json}

theorem Writes.readable (written : step.Writes document) (depth : Nat) :
    Json.Readable (depth + 2) document := by
  cases written with
  | object arranged =>
      apply Json.Readable.object
      intro member listed
      rcases List.mem_pair.mp (arranged.mem_iff.mp listed) with rfl | rfl
      · exact .string _
      · exact TestCase.texts_readable _ _

theorem Writes.describes (written : step.Writes document)
    (visible : TestCase.Visible step.action) : TestCase.DescribesStep document step := by
  cases written with
  | object arranged =>
      have distinct : (step.members.map (·.1)).Nodup := by
        change ["action", "args"].Nodup
        decide
      refine .object ?_ ?_
      · rw [Json.member?_of_perm distinct arranged]
        exact .text visible
      · rw [Json.member?_of_perm distinct arranged]
        exact .array _

end Step

namespace TestCase

variable {case : TestCase} {document : Json}

theorem steps_readable {steps : List Step} {items : List Json}
    (written : List.Forall₂ Step.Writes steps items) (depth : Nat) :
    ∀ item ∈ items, Json.Readable (depth + 2) item := by
  induction written with
  | nil => nofun
  | cons here _ ih => exact List.forall_mem_cons.mpr ⟨here.readable depth, ih⟩

theorem steps_described {steps : List Step} {items : List Json}
    (written : List.Forall₂ Step.Writes steps items)
    (actions : ∀ step ∈ steps, Visible step.action) : List.Forall₂ DescribesStep items steps := by
  induction written with
  | nil => exact .nil
  | cons here _ ih =>
      obtain ⟨first, others⟩ := List.forall_mem_cons.mp actions
      exact .cons (here.describes first) (ih others)

theorem names_members_nodup (case : TestCase) (steps : List Json) :
    ((case.members steps).map (·.1)).Nodup := by
  simp only [members, List.cons_append, List.map_cons, List.map_append,
    Json.map_fst_optionalMember]
  split
  · exact (by decide : ["name", "documentation", "tags", "steps"].Nodup)
  · exact (by decide : ["name", "tags", "steps"].Nodup)

theorem Writes.readable (written : case.Writes document) (depth : Nat) :
    Json.Readable (depth + 4) document := by
  cases written with
  | @object members steps stepsWritten arranged =>
      have each : ∀ member ∈ case.members steps, Json.Readable (depth + 3) member.2 := by
        simp only [TestCase.members, List.cons_append, List.forall_mem_cons,
          List.forall_mem_append]
        exact ⟨.string _, optionalMember_readable (fun text _ => .string text) _,
          texts_readable _ _, .array (steps_readable stepsWritten depth), nofun⟩
      exact .object fun member listed => each member (arranged.mem_iff.mp listed)

theorem Writes.describes (written : case.Writes document) (presentable : case.Presentable) :
    Describes document case := by
  cases written with
  | @object members steps stepsWritten arranged =>
      have distinct := case.names_members_nodup steps
      have under (name : String) (value : Json) :
          Json.member? members name = some value ↔ (name, value) ∈ case.members steps := by
        rw [Json.member?_of_perm distinct arranged, Json.member?_eq_some_iff distinct]
      have name : Json.member? members "name" = some (.string case.name) :=
        (under _ _).mpr (by simp [TestCase.members])
      have documentation :
          Json.member? members "documentation" = case.documentation.map Json.string := by
        ext value
        simp [under, TestCase.members, Json.mem_optionalMember_iff]
      have tags : Json.member? members "tags" = some (.array (case.tags.map Json.string)) :=
        (under _ _).mpr (by simp [TestCase.members])
      have items : Json.member? members "steps" = some (.array steps) :=
        (under _ _).mpr (by simp [TestCase.members])
      refine Describes.object ?_ ?_ ?_ ?_
      · rw [name]
        exact .text presentable.name
      · rw [documentation]
        cases case.documentation with
        | none => exact .absent
        | some text => exact .text text
      · rw [tags]
        exact .array _
      · rw [items]
        exact .array (steps_described stepsWritten presentable.actions)

/-- **Every test case survives its written form.** The compact text of the object for a test case
is read as that test case, and so is the text of an object with the same members in another
order. -/
theorem ofText?_compact_json {case : TestCase} (presentable : case.Presentable) :
    ofText? case.json.compact = .ok case ∧
      ∀ document, case.Writes document → ofText? document.compact = .ok case := by
  have reads (document : Json) (written : case.Writes document) :
      ofText? document.compact = .ok case :=
    ofText?_eq_ok_iff.mpr ⟨document, Json.ofText?_compact (written.readable 123),
      written.describes presentable⟩
  exact ⟨reads case.json case.writes_json, reads⟩

/-- A test case with quotes, a backslash and control characters in its texts, and an object for it
with the documentation last. -/
theorem ofText?_compact_json_quotes :
    let case : TestCase := {
      name := "say \"hi\""
      documentation := some "a\\b\n\u0000"
      tags := ["😀", ""]
      steps := [⟨"log", ["\t\u2028"]⟩, ⟨"no_operation", []⟩] }
    let document : Json := .object [
      ("tags", .array [.string "😀", .string ""]),
      ("steps", .array [
        .object [("args", .array [.string "\t\u2028"]), ("action", .string "log")],
        .object [("action", .string "no_operation"), ("args", .array [])]]),
      ("name", .string "say \"hi\""),
      ("documentation", .string "a\\b\n\u0000")]
    case.Presentable ∧ case.Writes document ∧ ofText? case.json.compact = .ok case ∧
      ofText? document.compact = .ok case := by
  intro case document
  have presentable : case.Presentable := by decide +kernel
  have written : case.Writes document := by
    refine .object (.cons (.object (.swap ..)) (.cons (.object (.refl _)) .nil)) ?_
    exact (List.perm_append_comm : ([_, _] ++ [_, _] : List (String × Json)).Perm _)
  obtain ⟨canonical, arranged⟩ := ofText?_compact_json presentable
  exact ⟨presentable, written, canonical, arranged document written⟩

end TestCase

end ScreenedSuite
