import ScreenedSuite.Toml.Basic

/-! # Assembling tables

A document defines its tables piece by piece: by headers, by dotted keys, and by headers of tables
below them. Each table remembers which of the three brought it into being, since that decides how
it may be extended. A header that defines a table which was only implied so far moves it behind
its siblings.
-/

namespace ScreenedSuite.Toml

/-- What brought a table into being. -/
inductive Origin where
  /-- A header of its own. -/
  | header
  /-- The header of a table below it. -/
  | implied
  /-- A dotted key. -/
  | dotted
deriving DecidableEq, Repr

/-- What a key of an unfinished table stands for. -/
inductive Node where
  | value (value : Toml)
  | table (origin : Origin) (entries : List (String × Node))
  /-- An array of tables: the last table, which is still open, and those before it, last first. -/
  | tables (last : List (String × Node)) (earlier : List (List (String × Node)))

/-- The entries of an unfinished table. -/
abbrev Entries :=
  List (String × Node)

/-- A key, split into its last part and the parts before, with its value. -/
structure Assignment where
  path : List String
  name : String
  value : Toml

/-- The key that is defined twice, or entries. -/
abbrev Assembled :=
  Except String Entries

/-- What a key stands for. -/
def find? (name : String) (entries : Entries) : Option Node :=
  (entries.find? (·.1 == name)).map (·.2)

/-- The entries with a new meaning for a key that they hold. -/
def replace (name : String) (node : Node) (entries : Entries) : Entries :=
  entries.map fun entry => if entry.1 == name then (name, node) else entry

/-- The entries with a value assigned to a key below a path. -/
def assign (name : String) (value : Toml) : List String → Entries → Assembled
  | [], entries =>
    match find? name entries with
    | none => .ok (entries ++ [(name, .value value)])
    | some _ => .error name
  | part :: path, entries =>
    match find? part entries with
    | none => do
      let inner ← assign name value path []
      return entries ++ [(part, .table .dotted inner)]
    | some (.table origin inner) =>
      if origin == .header || (path.isEmpty && origin == .implied) then .error name
      else do
        let inner ← assign name value path inner
        return replace part (.table origin inner) entries
    | some (.tables last earlier) =>
      if path.isEmpty then .error name
      else do
        let last ← assign name value path last
        return replace part (.tables last earlier) entries
    | some (.value _) => .error part

/-- The entries with all assignments carried out. -/
def assignAll : List Assignment → Entries → Assembled
  | [], entries => .ok entries
  | assignment :: rest, entries => do
    let entries ← assign assignment.name assignment.value assignment.path entries
    assignAll rest entries

/-- The entries with a change made to the table at a path. -/
def within (change : Entries → Assembled) : List String → Entries → Assembled
  | [], entries => change entries
  | part :: path, entries =>
    match find? part entries with
    | none => do
      let inner ← within change path []
      return entries ++ [(part, .table .implied inner)]
    | some (.table origin inner) => do
      let inner ← within change path inner
      return replace part (.table origin inner) entries
    | some (.tables last earlier) => do
      let last ← within change path last
      return replace part (.tables last earlier) entries
    | some (.value _) => .error part

/-- The entries with a table defined by a header. -/
def define (name : String) (assignments : List Assignment) (entries : Entries) : Assembled :=
  match find? name entries with
  | none => do
    let inner ← assignAll assignments []
    return entries ++ [(name, .table .header inner)]
  | some (.table .implied inner) => do
    let inner ← assignAll assignments inner
    return entries.filter (·.1 != name) ++ [(name, .table .header inner)]
  | some _ => .error name

/-- The entries with a table added to an array of tables. -/
def append (name : String) (assignments : List Assignment) (entries : Entries) : Assembled :=
  match find? name entries with
  | none => do
    let last ← assignAll assignments []
    return entries ++ [(name, .tables last [])]
  | some (.tables last earlier) => do
    let next ← assignAll assignments []
    return replace name (.tables next (last :: earlier)) entries
  | some _ => .error name

mutual

/-- The finished value of a key. -/
def Node.toToml : Node → Toml
  | .value finished => finished
  | .table _ entries => .table (entriesToToml entries)
  | .tables last earlier => .array (tablesToToml [.table (entriesToToml last)] earlier)

/-- The finished entries of a table. -/
def Node.entriesToToml : List (String × Node) → List (String × Toml)
  | [] => []
  | (name, node) :: rest => (name, node.toToml) :: entriesToToml rest

/-- The finished tables of an array, given those behind them. -/
def Node.tablesToToml (behind : List Toml) : List (List (String × Node)) → List Toml
  | [] => behind
  | entries :: earlier => tablesToToml (.table (entriesToToml entries) :: behind) earlier

end

end ScreenedSuite.Toml
