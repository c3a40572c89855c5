import Mathlib.Data.String.Basic
import ScreenedSuite.Proofs.Text.ByteOrder
import ScreenedSuite.Suite

/-! # Libraries of a suite

A suite imports each library that a statement needs (`ScreenedSuite.Suite.mem_libraries`), once and
in the order of the bytes of their names (`ScreenedSuite.Suite.libraries_pairwise`).
-/

namespace ScreenedSuite.Suite

theorem mem_insertOnce {text other : String} {items : List String} :
    other ∈ insertOnce text items ↔ other = text ∨ other ∈ items := by
  induction items with
  | nil => rw [insertOnce, List.mem_singleton, or_iff_left List.not_mem_nil]
  | cons first rest ih =>
      rw [insertOnce]
      split
      · exact List.mem_cons
      · split
        · rename_i same
          rw [same, List.mem_cons, ← or_assoc, or_self]
        · rw [List.mem_cons, List.mem_cons, ih, or_left_comm]

/-- Inserting a text keeps the others in ascending order, without repetition. -/
theorem insertOnce_pairwise (text : String) {items : List String}
    (ascending : items.Pairwise (· < ·)) : (insertOnce text items).Pairwise (· < ·) := by
  induction ascending with
  | nil => exact List.pairwise_singleton _ _
  | @cons first rest before restAscending ih =>
      rw [insertOnce]
      split
      · rename_i less
        refine .cons ?_ (.cons before restAscending)
        intro other member
        rcases List.mem_cons.mp member with rfl | later
        · exact less
        · exact lt_trans less (before other later)
      · rename_i notLess
        split
        · exact .cons before restAscending
        · rename_i different
          refine .cons ?_ ih
          intro other member
          rcases mem_insertOnce.mp member with rfl | later
          · exact lt_of_le_of_ne (not_lt.mp notLess) (Ne.symm different)
          · exact before other later

/-- The libraries of a suite are those that some statement needs. -/
theorem mem_libraries {statements : List Statement} {library : String} :
    library ∈ libraries statements ↔
      ∃ statement ∈ statements, statement.library = some library := by
  have folded (items : List String) : library ∈ items.foldr insertOnce [] ↔ library ∈ items := by
    induction items with
    | nil => rfl
    | cons first rest ih => rw [List.foldr_cons, mem_insertOnce, ih, List.mem_cons]
  rw [libraries, folded, List.mem_filterMap]

/-- The libraries of a suite stand in ascending order, each of them once. -/
theorem libraries_pairwise_lt (statements : List Statement) :
    (libraries statements).Pairwise (· < ·) := by
  unfold libraries
  induction statements.filterMap (·.library) with
  | nil => exact .nil
  | cons first rest ih => exact insertOnce_pairwise first ih

/-- The order of the libraries is that of their bytes. -/
theorem libraries_pairwise (statements : List Statement) :
    (libraries statements).Pairwise fun first second => utf8Bytes first < utf8Bytes second :=
  (libraries_pairwise_lt statements).imp utf8Bytes_lt_of_lt

end ScreenedSuite.Suite
