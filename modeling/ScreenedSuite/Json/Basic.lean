/-! # JSON values

A number keeps its spelling, since nothing here computes with it. An object keeps its members in the
order of the document; of several members with one name the last counts.
-/

namespace ScreenedSuite

/-- A JSON value. -/
inductive Json where
  | null
  | bool (value : Bool)
  | number (spelling : String)
  | string (value : String)
  | array (items : List Json)
  | object (members : List (String × Json))
deriving Inhabited

namespace Json

/-- The number that counts something. -/
def count (n : Nat) : Json :=
  number (toString n)

/-- The value under a name, the last one where a name repeats. -/
def member? (members : List (String × Json)) (name : String) : Option Json :=
  (members.reverse.find? (·.1 == name)).map (·.2)

end Json

end ScreenedSuite
