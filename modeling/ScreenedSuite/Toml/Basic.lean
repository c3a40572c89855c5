import ScreenedSuite.Toml.Double

/-! # TOML values

The values of a TOML document. A table keeps its entries in the order in which they were defined.
Dates and times are recognised, but nothing is made of them.
-/

namespace ScreenedSuite

/-- A TOML value. -/
inductive Toml where
  | string (value : String)
  | integer (value : Int)
  | float (value : Double)
  | boolean (value : Bool)
  | dateTime
  | array (items : List Toml)
  | table (entries : List (String × Toml))

namespace Toml

/-! ## Equality -/

mutual

/-- Whether two values are the same. -/
def same : Toml → Toml → Bool
  | .string first, .string second => first == second
  | .integer first, .integer second => first == second
  | .float first, .float second => first == second
  | .boolean first, .boolean second => first == second
  | .dateTime, .dateTime => true
  | .array first, .array second => sameItems first second
  | .table first, .table second => sameEntries first second
  | _, _ => false

/-- Whether the items of two arrays are the same. -/
def sameItems : List Toml → List Toml → Bool
  | [], [] => true
  | first :: firsts, second :: seconds => first.same second && sameItems firsts seconds
  | _, _ => false

/-- Whether the entries of two tables are the same, in the same order. -/
def sameEntries : List (String × Toml) → List (String × Toml) → Bool
  | [], [] => true
  | (name, first) :: firsts, (other, second) :: seconds =>
    name == other && first.same second && sameEntries firsts seconds
  | _, _ => false

end

mutual

theorem same_iff (first second : Toml) : first.same second = true ↔ first = second := by
  cases first <;> cases second <;> simp [same, sameItems_iff, sameEntries_iff]

theorem sameItems_iff (first second : List Toml) :
    sameItems first second = true ↔ first = second := by
  cases first <;> cases second <;> simp [sameItems, same_iff, sameItems_iff]

theorem sameEntries_iff (first second : List (String × Toml)) :
    sameEntries first second = true ↔ first = second := by
  cases first <;> cases second <;> simp [sameEntries, same_iff, sameEntries_iff, Prod.ext_iff]

end

instance : DecidableEq Toml := fun first second =>
  decidable_of_iff (first.same second = true) (same_iff first second)

end Toml

end ScreenedSuite
