import ScreenedSuite.Finding.Report
import ScreenedSuite.Proofs.Json.Reading
import ScreenedSuite.Proofs.Lookup

/-! # Members of objects

Where the names of an object are distinct, the value under a name is that of its only member
(`ScreenedSuite.Json.member?_eq_some_iff`), and the order of the members makes no difference
(`ScreenedSuite.Json.member?_of_perm`). A member that may be left out is a list of members for
itself.
-/

namespace ScreenedSuite

theorem optionalMember_readable {α : Type} {given : Option α} {write : α → Json} {depth : Nat}
    (each : ∀ present ∈ given, Json.Readable depth (write present)) (name : String) :
    ∀ member ∈ optionalMember name (given.map write), Json.Readable depth member.2 := by
  cases given with
  | none => nofun
  | some present =>
      intro member listed
      cases List.mem_singleton.mp listed
      exact each present rfl

namespace Json

variable {members others : List (String × Json)} {name : String} {value : Json}

theorem member?_eq_some_iff (distinct : (members.map (·.1)).Nodup) :
    member? members name = some value ↔ (name, value) ∈ members := by
  have reversed : (members.reverse.map (·.1)).Nodup := by
    rw [List.map_reverse]
    exact List.nodup_reverse.mpr distinct
  rw [member?, find?_fst_eq_some_iff reversed, List.mem_reverse]

/-- The order of members with distinct names makes no difference. -/
theorem member?_of_perm (distinct : (members.map (·.1)).Nodup) (arranged : others.Perm members)
    (name : String) : member? others name = member? members name := by
  have alsoDistinct : (others.map (·.1)).Nodup := (arranged.map _).nodup_iff.mpr distinct
  ext value
  rw [member?_eq_some_iff alsoDistinct, member?_eq_some_iff distinct, arranged.mem_iff]

theorem mem_optionalMember_iff {other : String} {present : Option Json} :
    (name, value) ∈ optionalMember other present ↔ name = other ∧ present = some value := by
  cases present with
  | none => simp [optionalMember]
  | some given => simp [optionalMember, eq_comm]

theorem map_fst_optionalMember (name : String) (present : Option Json) :
    (optionalMember name present).map (·.1) = if present.isSome then [name] else [] := by
  cases present <;> rfl

end Json

end ScreenedSuite
