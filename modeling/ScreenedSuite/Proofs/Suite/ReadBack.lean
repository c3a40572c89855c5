import ScreenedSuite.Proofs.Cell.Name
import ScreenedSuite.Proofs.Cell.Row
import ScreenedSuite.Proofs.Suite.Libraries
import ScreenedSuite.Proofs.Suite.Literals

/-! # Reading suites back

The text of a suite is cut into lines at its line feeds, and its rows into cells at their runs of
spaces. What is read that way is what the suite was meant to hold, section by section and cell by
cell (`ScreenedSuite.Suite.render_readsBack`), provided that the literals of the action table are
plain. The user's texts need no such condition.
-/

namespace ScreenedSuite.Suite

/-- The spaces between two cells. -/
def spaces (width : Nat) : List Char :=
  List.replicate (max width 2) ' '

/-- A line is read as a row of cells when it is indented by a separator and the rest of it is cut
into the cells. -/
def ReadsAs (width : Nat) (line : List Char) (cells : List String) : Prop :=
  ∃ row, line = spaces width ++ row ∧ Cell.split row = cells.map String.toList

/-- The row that documents a test case. -/
def documentationRows (documentation : Option String) : List (List String) :=
  documentation.toList.map fun text => ["[Documentation]", Cell.ofArgument text]

/-- The row of tags, if there are any. -/
def tagRows (tags : List String) : List (List String) :=
  if tags = [] then [] else ["[Tags]" :: tags.map Cell.ofArgument]

/-- The cell that an argument is meant to have: the user's text is escaped, while a literal of the
action table and the placeholder stand as they are. -/
def argumentCell (token : Token) : String :=
  if token.provenance = .verbatim ∨ token.provenance = .screened then Cell.ofArgument token.value
  else token.value

/-- The cells that a statement is meant to have: the variable that takes the result, if there is
one, with an equals sign, then the keyword, then one cell for each argument. -/
def intendedCells (statement : Statement) : List String :=
  match statement.assign with
  | some target => (target ++ "=") :: statement.keyword :: statement.args.map argumentCell
  | none => statement.keyword :: statement.args.map argumentCell

/-- One row for each statement, or one that does nothing. -/
def bodyRows (statements : List Statement) : List (List String) :=
  if statements = [] then [["No Operation"]] else statements.map intendedCells

/-- The lines of a suite, by what they are for. -/
structure Sections where
  settings : List (List Char)
  documentation : List (List Char)
  tags : List (List Char)
  body : List (List Char)

/-- The text of a conversion consists of sections that are read as they are meant. -/
structure ReadsBack (width : Nat) (conversion : Conversion) (text : String)
    (sections : Sections) : Prop where
  lines : text.toList.splitOn '\n' = sections.settings ++
    ["*** Test Cases ***".toList, Cell.nameLine conversion.name.toList] ++
      (sections.documentation ++ sections.tags ++ sections.body) ++ [[]]
  withoutLibraries : (∀ statement ∈ conversion.statements, statement.library = none) →
    sections.settings = []
  withLibraries : (∃ statement ∈ conversion.statements, statement.library ≠ none) →
    ∃ libraries : List String,
      sections.settings = "*** Settings ***".toList ::
        libraries.map (fun library => "Library".toList ++ spaces width ++ library.toList) ++ [[]] ∧
      (∀ library, library ∈ libraries ↔
        ∃ statement ∈ conversion.statements, statement.library = some library) ∧
      (libraries.Pairwise fun first second => utf8Bytes first < utf8Bytes second) ∧
      ∀ library ∈ libraries,
        Cell.split ("Library".toList ++ spaces width ++ library.toList) =
          ["Library".toList, library.toList]
  documentation : List.Forall₂ (ReadsAs width) sections.documentation
    (documentationRows conversion.documentation)
  tags : List.Forall₂ (ReadsAs width) sections.tags (tagRows conversion.tags)
  body : List.Forall₂ (ReadsAs width) sections.body (bodyRows conversion.statements)

theorem toList_separator (width : Nat) : (separator width).toList = spaces width := by
  rw [separator, String.toList_ofList]
  rfl

/-- A row whose cells are plain. -/
structure PlainRow (cells : List String) : Prop where
  nonempty : cells ≠ []
  plain : ∀ cell ∈ cells, Cell.Plain cell.toList

theorem toList_rowLine (width : Nat) (cells : List String) :
    (rowLine (separator width) cells).toList =
      spaces width ++ (spaces width).intercalate (cells.map String.toList) := by
  rw [rowLine, String.toList_append, String.toList_intercalate, toList_separator]

/-- A row of plain cells is read as those cells. -/
theorem PlainRow.readsAs {cells : List String} (row : PlainRow cells) (width : Nat) :
    ReadsAs width (rowLine (separator width) cells).toList cells := by
  refine ⟨(spaces width).intercalate (cells.map String.toList), toList_rowLine width cells, ?_⟩
  refine Cell.split_intercalate (Nat.le_max_right width 2) ?_ ?_
  · rw [ne_eq, List.map_eq_nil_iff]
    exact row.nonempty
  · intro cell member
    obtain ⟨text, given, rfl⟩ := List.mem_map.mp member
    exact row.plain text given

theorem lineFeed_not_mem_spaces (width : Nat) : '\n' ∉ spaces width := by
  intro member
  exact absurd (List.eq_of_mem_replicate member) (by decide)

theorem lineFeed_not_mem_intercalate {width : Nat} {cells : List (List Char)}
    (unbroken : ∀ cell ∈ cells, '\n' ∉ cell) : '\n' ∉ (spaces width).intercalate cells := by
  intro member
  rcases Cell.mem_of_mem_intercalate member with between | ⟨cell, given, inside⟩
  · exact lineFeed_not_mem_spaces width between
  · exact unbroken cell given inside

/-- A row of plain cells is a single line. -/
theorem PlainRow.lineFeed_not_mem {cells : List String} (row : PlainRow cells) (width : Nat) :
    '\n' ∉ (rowLine (separator width) cells).toList := by
  rw [toList_rowLine, List.mem_append, not_or]
  refine ⟨lineFeed_not_mem_spaces width, lineFeed_not_mem_intercalate fun cell member => ?_⟩
  obtain ⟨text, given, rfl⟩ := List.mem_map.mp member
  exact (row.plain text given).unbroken

/-- Lines that end with line feeds are read back. -/
theorem splitOn_flatMap_lines {lines : List (List Char)} (unbroken : ∀ line ∈ lines, '\n' ∉ line) :
    (lines.flatMap fun line => line ++ ['\n']).splitOn '\n' = lines ++ [[]] := by
  induction lines with
  | nil => rfl
  | cons line rest ih =>
      have here : '\n' ∉ line := unbroken line List.mem_cons_self
      rw [List.flatMap_cons, List.append_assoc, List.singleton_append,
        List.splitOn_append_cons_self_of_not_mem here,
        ih fun other member => unbroken other (List.mem_cons_of_mem _ member), List.cons_append]

/-- The lines of a suite are read back from its text. -/
theorem splitOn_render {width : Nat} {conversion : Conversion}
    (unbroken : ∀ line ∈ lines width conversion, '\n' ∉ line.toList) :
    (render width conversion).toList.splitOn '\n' =
      (lines width conversion).map String.toList ++ [[]] := by
  have ended : (render width conversion).toList =
      ((lines width conversion).map String.toList).flatMap fun line => line ++ ['\n'] := by
    rw [render, String.toList_join, List.flatMap_map, List.flatMap_map]
    simp only [String.toList_append]
    rfl
  rw [ended, splitOn_flatMap_lines]
  intro line member
  obtain ⟨text, given, rfl⟩ := List.mem_map.mp member
  exact unbroken text given

theorem argumentCell_eq (token : Token) : argumentCell token = Cell.ofToken token := by
  obtain ⟨value, provenance⟩ := token
  cases provenance with
  | generated => rfl
  | verbatim => rfl
  | screened => rfl
  | redacted => rfl

/-- Statements have the cells that they are meant to have. -/
theorem statementCells_eq (statement : Statement) :
    statementCells statement = intendedCells statement := by
  have args : statement.args.map Cell.ofToken = statement.args.map argumentCell :=
    List.map_congr_left fun token _ => (argumentCell_eq token).symm
  unfold statementCells intendedCells
  rw [args]
  cases statement.assign with
  | none => rfl
  | some target => rfl

theorem rows_eq (conversion : Conversion) :
    rows conversion = documentationRows conversion.documentation ++ tagRows conversion.tags ++
      bodyRows conversion.statements := by
  have cells : statementCells = intendedCells := funext statementCells_eq
  unfold rows documentationRows tagRows bodyRows
  rw [cells]
  simp only [List.isEmpty_iff]
  cases conversion.documentation with
  | none => rfl
  | some text => rfl

theorem documentationRows_plain {documentation : Option String} :
    ∀ cells ∈ documentationRows documentation, PlainRow cells := by
  intro cells member
  obtain ⟨text, _, rfl⟩ := List.mem_map.mp member
  refine ⟨List.cons_ne_nil _ _, fun cell given => ?_⟩
  rcases List.mem_pair.mp given with rfl | rfl
  · decide
  · exact Cell.ofArgument_plain text

theorem tagRows_plain {tags : List String} : ∀ cells ∈ tagRows tags, PlainRow cells := by
  intro cells member
  unfold tagRows at member
  split at member
  · cases member
  · cases List.mem_singleton.mp member
    refine ⟨List.cons_ne_nil _ _, fun cell given => ?_⟩
    rcases List.mem_cons.mp given with rfl | ofTag
    · decide
    · obtain ⟨tag, _, rfl⟩ := List.mem_map.mp ofTag
      exact Cell.ofArgument_plain tag

/-- Plain statements are plain rows. -/
theorem bodyRows_plain {statements : List Statement}
    (plain : ∀ statement ∈ statements, statement.Plain) :
    ∀ cells ∈ bodyRows statements, PlainRow cells := by
  intro cells member
  unfold bodyRows at member
  split at member
  · cases List.mem_singleton.mp member
    refine ⟨List.cons_ne_nil _ _, fun cell given => ?_⟩
    cases List.mem_singleton.mp given
    decide
  · obtain ⟨statement, given, rfl⟩ := List.mem_map.mp member
    rw [← statementCells_eq]
    refine ⟨?_, (plain statement given).cells⟩
    exact List.append_ne_nil_of_right_ne_nil _ (List.cons_ne_nil _ _)

/-- Plain rows are read as their cells. -/
theorem forall₂_readsAs {rows : List (List String)} (plain : ∀ cells ∈ rows, PlainRow cells)
    (width : Nat) :
    List.Forall₂ (ReadsAs width)
      (rows.map fun cells => (rowLine (separator width) cells).toList) rows := by
  rw [List.forall₂_map_left_iff, List.forall₂_same]
  exact fun cells member => (plain cells member).readsAs width

/-- The line that imports a library. -/
def libraryLine (width : Nat) (library : String) : List Char :=
  "Library".toList ++ spaces width ++ library.toList

/-- The lines that import libraries. -/
theorem map_toList_settingsLines (width : Nat) (libraries : List String) :
    (settingsLines (separator width) libraries).map String.toList =
      if libraries = [] then []
      else "*** Settings ***".toList :: libraries.map (libraryLine width) ++ [[]] := by
  have line (library : String) :
      (s!"Library{separator width}{library}").toList = libraryLine width library := by
    unfold libraryLine
    rw [← toList_separator]
    simp only [String.toList_append]
    rfl
  unfold settingsLines
  split_ifs with empty some none
  · rfl
  · exact (some (List.isEmpty_iff.mp empty)).elim
  · exact (empty (List.isEmpty_iff.mpr none)).elim
  · rw [List.map_append, List.map_cons, List.map_map, List.map_singleton]
    simp only [Function.comp_def, line]
    rfl

/-- A plain library is read back from the line that imports it. -/
theorem split_libraryLine {library : String} (plain : Cell.Plain library.toList) (width : Nat) :
    Cell.split (libraryLine width library) = ["Library".toList, library.toList] := by
  have keyword : Cell.Plain "Library".toList := by decide
  have cells : ∀ cell ∈ ["Library".toList, library.toList], Cell.Plain cell := by
    intro cell member
    rcases List.mem_pair.mp member with rfl | rfl
    · exact keyword
    · exact plain
  have read := Cell.split_intercalate (Nat.le_max_right width 2) (List.cons_ne_nil _ _) cells
  rwa [List.intercalate_cons_cons, List.intercalate_singleton] at read

/-- The lines of a suite of plain statements are single ones. -/
theorem lineFeed_not_mem_lines {conversion : Conversion}
    (plain : ∀ statement ∈ conversion.statements, statement.Plain) (width : Nat) :
    ∀ line ∈ lines width conversion, '\n' ∉ line.toList := by
  have settings : ∀ line ∈ settingsLines (separator width) (libraries conversion.statements),
      '\n' ∉ line.toList := by
    intro line member
    have asRead : line.toList ∈ (settingsLines (separator width)
        (libraries conversion.statements)).map String.toList := List.mem_map_of_mem member
    rw [map_toList_settingsLines] at asRead
    split at asRead
    · cases asRead
    · rw [List.mem_append, List.mem_cons, List.mem_map, List.mem_singleton] at asRead
      rcases asRead with (header | ⟨library, needed, importing⟩) | blank
      · rw [header]
        decide
      · obtain ⟨statement, given, needs⟩ := mem_libraries.mp needed
        have libraryPlain := (plain statement given).library library needs
        rw [← importing]
        unfold libraryLine
        simp only [List.mem_append, not_or]
        exact ⟨⟨by decide, lineFeed_not_mem_spaces width⟩, libraryPlain.unbroken⟩
      · rw [blank]
        exact List.not_mem_nil
  have name : '\n' ∉ (Cell.ofName conversion.name).toList := by
    rw [Cell.ofName, String.toList_ofList]
    exact Cell.lineFeed_not_mem_nameLine _
  have rowPlain : ∀ cells ∈ rows conversion, PlainRow cells := by
    intro cells member
    rw [rows_eq, List.mem_append, List.mem_append] at member
    rcases member with (documentation | tags) | body
    · exact documentationRows_plain cells documentation
    · exact tagRows_plain cells tags
    · exact bodyRows_plain plain cells body
  intro line member
  rw [lines, List.mem_append, List.mem_cons, List.mem_cons, List.mem_map] at member
  rcases member with inSettings | rfl | rfl | ⟨cells, given, rfl⟩
  · exact settings line inSettings
  · decide
  · exact name
  · exact (rowPlain cells given).lineFeed_not_mem width

/-- **A suite reads back cell for cell.** With an action table of plain literals, like the built-in
one, the text of every conversion consists of its sections, and the rows of the sections are read as
the cells that they are meant to hold. -/
theorem render_readsBack :
    ActionTable.builtin.Plain ∧
      ∀ (screening : Screening), screening.actions.Plain →
        ∀ (case : TestCase) (conversion : Conversion), screening.convert case = .ok conversion →
          ∀ width, ∃ sections, ReadsBack width conversion (render width conversion) sections := by
  refine ⟨ActionTable.builtin_plain, fun screening tablePlain case conversion done width => ?_⟩
  have plain := Screening.plain_of_convert_eq_ok tablePlain done
  have rowsPlain := bodyRows_plain plain
  let rowLines (rows : List (List String)) : List (List Char) :=
    rows.map fun cells => (rowLine (separator width) cells).toList
  refine ⟨{
    settings := (settingsLines (separator width) (libraries conversion.statements)).map
      String.toList
    documentation := rowLines (documentationRows conversion.documentation)
    tags := rowLines (tagRows conversion.tags)
    body := rowLines (bodyRows conversion.statements) }, ?_⟩
  refine {
    lines := ?_
    withoutLibraries := ?_
    withLibraries := ?_
    documentation := forall₂_readsAs documentationRows_plain width
    tags := forall₂_readsAs tagRows_plain width
    body := forall₂_readsAs rowsPlain width }
  · rw [splitOn_render (lineFeed_not_mem_lines plain width), lines, rows_eq]
    simp only [List.map_append, List.map_cons, List.map_map, List.append_assoc, List.cons_append,
      List.nil_append, Cell.ofName, String.toList_ofList]
    rfl
  · intro none
    have empty : libraries conversion.statements = [] := by
      rw [List.eq_nil_iff_forall_not_mem]
      intro library member
      obtain ⟨statement, given, needed⟩ := mem_libraries.mp member
      rw [none statement given] at needed
      cases needed
    rw [empty]
    rfl
  · rintro ⟨statement, given, needed⟩
    obtain ⟨library, needs⟩ := Option.ne_none_iff_exists'.mp needed
    have present : library ∈ libraries conversion.statements :=
      mem_libraries.mpr ⟨statement, given, needs⟩
    refine ⟨libraries conversion.statements, ?_, fun _ => mem_libraries,
      libraries_pairwise conversion.statements, ?_⟩
    · rw [map_toList_settingsLines, if_neg (List.ne_nil_of_mem present)]
      rfl
    · intro other member
      obtain ⟨needing, among, names⟩ := mem_libraries.mp member
      exact split_libraryLine ((plain needing among).library other names) width

/-- A documented test case whose texts are full of spaces and line feeds. -/
theorem render_readsBack_spaced_texts :
    let screening : Screening := ⟨.builtin, .builtin, .passthrough, .permissive⟩
    let case : TestCase := {
      name := "spaced"
      documentation := some "two  spaces\n"
      tags := [" ", ""]
      steps := [⟨"read_file", ["a  b"]⟩, ⟨"click", ["*** Settings ***"]⟩] }
    let conversion : Conversion := {
      name := "spaced"
      documentation := some "two  spaces\n"
      tags := [" ", ""]
      statements := [
        ⟨some r"${content}", "Get File", [.screened "a  b"], some "OperatingSystem"⟩,
        ⟨none, "Comment", [.verbatim "unmapped action: click", .verbatim "*** Settings ***"], none⟩]
      findings := [⟨.unmapped, none, none, "click", .passthrough, ⟨1, none⟩⟩] }
    screening.actions.Plain ∧ screening.convert case = .ok conversion ∧
      ∃ sections, ReadsBack 4 conversion (render 4 conversion) sections := by
  intro screening case conversion
  have plain : screening.actions.Plain := render_readsBack.1
  have done : screening.convert case = .ok conversion := by decide +kernel
  exact ⟨plain, done, render_readsBack.2 screening plain case conversion done 4⟩

end ScreenedSuite.Suite
