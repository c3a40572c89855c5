import ScreenedSuite.Toml.Value

/-! # Reading documents

A document is a list of sections. The first one has no header and fills the outermost table; the
header of every other one names the table that it defines or appends.
-/

namespace ScreenedSuite.Toml

/-- What a section fills. -/
inductive Header where
  /-- The outermost table. -/
  | outermost
  /-- A table below a path. -/
  | table (path : List String) (name : String)
  /-- A further table of the array below a path. -/
  | element (path : List String) (name : String)

/-- A header with the assignments under it. -/
structure Section where
  header : Header
  assignments : List Assignment

/-- The entries with those of a section added. -/
def Section.addTo (piece : Section) (entries : Entries) : Assembled :=
  match piece.header with
  | .outermost => assignAll piece.assignments entries
  | .table path name => within (define name piece.assignments) path entries
  | .element path name => within (append name piece.assignments) path entries

/-- The entries of the outermost table after all sections. -/
def assemble : List Section → Entries → Assembled
  | [], entries => .ok entries
  | piece :: rest, entries => do
    let entries ← piece.addTo entries
    assemble rest entries

/-- A header after its first bracket, up to the end of its line. -/
def readHeader (text : List Char) : Except Fault (Header × List Char) := do
  match text with
  | '[' :: rest =>
    let ((path, name), rest) ← readKey (rest.length + 1) [] rest
    match rest with
    | ']' :: ']' :: rest => return (.element path name, ← endLine rest)
    | rest => .error (.before .expectedClosing rest)
  | text =>
    let ((path, name), rest) ← readKey (text.length + 1) [] text
    match rest with
    | ']' :: rest => return (.table path name, ← endLine rest)
    | rest => .error (.before .expectedClosing rest)

/-- The sections of a text. `done` holds the finished ones, last first, and `current` the
assignments under the open header, last first. -/
def readSections :
    Nat → List Section → Header → List Assignment → List Char → Except Fault (List Section)
  | 0, _, _, _, text => .error (.before .expectedKey text)
  | fuel + 1, done, header, current, text =>
    match skipSpace text with
    | [] => .ok (⟨header, current.reverse⟩ :: done).reverse
    | '#' :: rest => do
      let rest ← endLine ('#' :: rest)
      readSections fuel done header current rest
    | '[' :: rest => do
      let (next, rest) ← readHeader rest
      readSections fuel (⟨header, current.reverse⟩ :: done) next [] rest
    | text =>
      match afterBreak? text with
      | some rest => readSections fuel done header current rest
      | none => do
        let (assignment, rest) ← readAssignment (2 * text.length + 2) (nestingLimit - 1) text
        let rest ← endLine rest
        readSections fuel done header (assignment :: current) rest

/-- The text behind a byte order mark. -/
def afterMark : List Char → List Char
  | '\uFEFF' :: rest => rest
  | text => text

end ScreenedSuite.Toml

namespace ScreenedSuite

/-- The entries of the outermost table that a text defines. -/
def Toml.ofText? (text : String) : Except Toml.DocumentError (List (String × Toml)) :=
  let chars := Toml.afterMark text.toList
  match Toml.readSections (chars.length + 1) [] .outermost [] chars with
  | .error fault => .error (.locate text.toList fault)
  | .ok sections =>
    match Toml.assemble sections [] with
    | .error key => .error (.conflict key)
    | .ok entries => .ok (Toml.Node.entriesToToml entries)

end ScreenedSuite
