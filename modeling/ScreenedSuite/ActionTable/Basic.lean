import ScreenedSuite.Template

/-! # Action tables

A table maps action names to templates. Its entries are kept in ascending order of their names, and
registering a name anew replaces its template.
-/

namespace ScreenedSuite

/-- Templates by action name. -/
structure ActionTable where
  entries : List (String × Template)

namespace ActionTable

/-- The table without actions. -/
def empty : ActionTable :=
  ⟨[]⟩

/-- Ordered entries with a name set to a template. -/
def setEntry (name : String) (template : Template) :
    List (String × Template) → List (String × Template)
  | [] => [(name, template)]
  | (other, kept) :: rest =>
    if name < other then (name, template) :: (other, kept) :: rest
    else if name = other then (name, template) :: rest
    else (other, kept) :: setEntry name template rest

/-- The table with an action added or replaced. -/
def register (table : ActionTable) (name : String) (template : Template) : ActionTable :=
  ⟨setEntry name template table.entries⟩

/-- The table with the given actions, a later one replacing an earlier one of its name. -/
def ofList (entries : List (String × Template)) : ActionTable :=
  entries.foldl (fun table entry => table.register entry.1 entry.2) empty

/-- The template of an action. -/
def get? (table : ActionTable) (name : String) : Option Template :=
  (table.entries.find? (·.1 == name)).map (·.2)

/-- The names of all actions. -/
def names (table : ActionTable) : List String :=
  table.entries.map (·.1)

/-- The number of actions. -/
def size (table : ActionTable) : Nat :=
  table.entries.length

/-- Whether the table holds no action. -/
def isEmpty (table : ActionTable) : Bool :=
  table.entries.isEmpty

end ActionTable

end ScreenedSuite
