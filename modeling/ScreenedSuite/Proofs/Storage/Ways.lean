import ScreenedSuite.Proofs.Storage.Changes

/-! # Ways to something new

A new directory or file stands at the end of its path once directories stand all along the way.
Where no file is in the way, the missing directories can be made
(`ScreenedSuite.FileTree.Clear.makeDirectory_cases`), and then a log can be opened at the end
exactly if no directory stands there (`ScreenedSuite.FileTree.Openable.openForAppend`,
`ScreenedSuite.FileTree.openable_of_openForAppend`).
-/

namespace ScreenedSuite

namespace FileTree

variable {tree after : FileTree} {here place : List String} {path above : String}

/-- Whether a path leads through a place before its end. -/
def Passes (here : List String) (path : String) (place : List String) : Prop :=
  ∃ front, front <+: Path.steps path ∧ front ≠ Path.steps path ∧
    lead (start here path) front = place

/-- Whether a log can be opened at a path once the directories on its way are made. The path can be
looked up from a directory and ends in a name, none of its names is too long, what it leads through
before its end is no file and not the end itself, and no directory stands at the end. -/
structure Openable (tree : FileTree) (here : List String) (path : String) : Prop where
  readable : ∃ names, pathNames path = .ok names
  name : ∃ name, (Path.names path).getLast? = some name ∧ Path.isIdle name = false
  short : ∀ name ∈ Path.names path, name.utf8ByteSize ≤ nameLimit
  start : tree.node? (start here path) = some .directory
  way : ∀ place, Passes here path place →
    place ≠ placeOf here path ∧ ∀ file, tree.node? place ≠ some (.file file)
  vacant : tree.node? (placeOf here path) ≠ some .directory

/-- Whether directories can be made all along a path. -/
structure Clear (tree : FileTree) (here : List String) (path : String) : Prop where
  readable : path ≠ "" → ∃ names, pathNames path = .ok names
  trimmed : Path.Trimmed path
  short : ∀ name ∈ Path.steps path, name.utf8ByteSize ≤ nameLimit
  start : tree.node? (start here path) = some .directory
  way : ∀ place, LeadsThrough here path place → ∀ file, tree.node? place ≠ some (.file file)

/-- Whether directories stand all along a path. -/
def Stands (tree : FileTree) (here : List String) (path : String) : Prop :=
  ∀ place, LeadsThrough here path place → tree.node? place = some .directory

/-- What is made on the way to a log: directories that its path leads through behind its start and
before its end. -/
def MadeOnWay (path : String) (here place : List String) (node : FileNode) : Prop :=
  Passes here path place ∧ place ≠ start here path ∧ node = .directory

/-- What is made for a log: the directories on the way to it, and a file at its place. -/
def MadeFor (path : String) (here place : List String) (node : FileNode) : Prop :=
  MadeOnWay path here place node ∨ place = placeOf here path ∧ ∃ file, node = .file file

theorem leadsThrough_iff : LeadsThrough here path place ↔
    Passes here path place ∨ place = placeOf here path := by
  constructor
  · rintro ⟨front, initial, rfl⟩
    by_cases whole : front = Path.steps path
    · exact .inr (whole ▸ rfl)
    · exact .inl ⟨front, initial, whole, rfl⟩
  · rintro (⟨front, initial, _, isPlace⟩ | rfl)
    · exact ⟨front, initial, isPlace⟩
    · exact leadsThrough_placeOf here path

theorem start_of_parent? (parent : Path.parent? path = some above) :
    start here above = start here path := by
  rw [start, start, (Path.parent?_above parent).1]

/-- What a path leads through before its end its parent leads through. -/
theorem leadsThrough_of_passes (parent : Path.parent? path = some above)
    (passes : Passes here path place) : LeadsThrough here above place := by
  obtain ⟨front, initial, proper, isPlace⟩ := passes
  refine ⟨front, ?_, start_of_parent? parent ▸ isPlace⟩
  rw [(Path.parent?_eq_some parent).1]
  rcases List.eq_nil_or_concat (Path.steps path) with empty | ⟨earlier, last, split⟩
  · rw [empty] at initial proper
    exact absurd (List.prefix_nil.mp initial) proper
  · rw [split, List.concat_eq_append] at initial proper
    rw [split, List.concat_eq_append, List.dropLast_concat]
    exact (List.prefix_concat_iff.mp initial).resolve_left proper

/-- What the parent of a path leads through the path leads through before its end. -/
theorem passes_of_leadsThrough (parent : Path.parent? path = some above)
    (named : Path.steps path ≠ []) (through : LeadsThrough here above place) :
    Passes here path place := by
  obtain ⟨front, initial, isPlace⟩ := through
  rw [(Path.parent?_eq_some parent).1] at initial
  refine ⟨front, initial.trans (List.dropLast_prefix _), ?_, start_of_parent? parent ▸ isPlace⟩
  rintro rfl
  have shorter := initial.length_le
  have long := List.length_pos_iff.mpr named
  rw [List.length_dropLast] at shorter
  omega

/-- Idle names are short, so that only steps can be too long. -/
theorem short_of_steps (short : ∀ name ∈ Path.steps path, name.utf8ByteSize ≤ nameLimit) :
    ∀ name ∈ Path.names path, name.utf8ByteSize ≤ nameLimit := by
  intro name member
  by_cases idle : Path.isIdle name
  · exact utf8ByteSize_le_of_special (.inl idle)
  · exact short name (List.mem_filter.mpr ⟨member, by simp [idle]⟩)

theorem prefix_of_dropTrailing (names : List String) : (dropTrailing names).1 <+: names :=
  List.rdropWhile_prefix (· == "") names

/-- Where directories stand before its end, a path can be followed to something new. -/
theorem followNew_of_stands (trimmed : Path.Trimmed path)
    (readable : ∃ names, pathNames path = .ok names)
    (short : ∀ name ∈ Path.names path, name.utf8ByteSize ≤ nameLimit)
    (standing : tree.node? (start here path) = some .directory)
    (stands : ∀ place, Passes here path place → tree.node? place = some .directory) :
    tree.followNew here path = .ok (placeOf here path, (dropTrailing (Path.names path)).2) := by
  obtain ⟨names, readable⟩ := readable
  obtain rfl := eq_names_of_pathNames readable
  have kept := prefix_of_dropTrailing (Path.names path)
  have through : (dropTrailing (Path.names path)).1.filter (!Path.isIdle ·) = Path.steps path :=
    filter_dropTrailing _
  have walked : tree.walk (start here path) (dropTrailing (Path.names path)).1 =
      .ok (placeOf here path) := by
    refine walk_eq_ok_iff.mpr ⟨?_, fun name member => short name (kept.subset member), ?_⟩
    · rw [placeOf, ← through, lead_filter]
    · intro front initial proper
      rw [← lead_filter]
      by_cases whole : front.filter (!Path.isIdle ·) = Path.steps path
      · rcases trimmed with stays | ⟨others, last, split, leads⟩
        · rw [whole, stays]
          exact standing
        · -- Without the last name, which leads somewhere, there is a step less.
          have nonempty : last ≠ "" := fun empty => by simp [empty, Path.isIdle] at leads
          have isLast : (Path.names path).getLast? = some last := by simp [split]
          rw [dropTrailing_of_getLast? isLast nonempty, split] at initial proper
          have before := (List.prefix_concat_iff.mp initial).resolve_left proper
          have fewer := (before.filter (!Path.isIdle ·)).length_le
          rw [whole, Path.steps, split] at fewer
          simp [leads] at fewer
      · exact stands _ ⟨_, through ▸ initial.filter _, whole, rfl⟩
  exact Outcome.bind_eq_ok_iff.mpr ⟨_, readable, Outcome.bind_eq_ok_iff.mpr ⟨_, walked, rfl⟩⟩

/-- Something new at the end of a path is a directory that is made, unless one stands there. -/
theorem makeDirectory_of_followNew {trailing : Bool}
    (found : tree.followNew here path = .ok (placeOf here path, trailing))
    (fileless : ∀ file, tree.node? (placeOf here path) ≠ some (.file file)) :
    tree.makeDirectory here path = .ok (tree.put (placeOf here path) .directory) ∧
        tree.node? (placeOf here path) = none ∨
      tree.makeDirectory here path = .error .alreadyExists ∧
        tree.node? (placeOf here path) = some .directory := by
  rw [makeDirectory, found]
  dsimp only [Bind.bind, Except.bind]
  cases standing : tree.node? (placeOf here path) with
  | none => exact .inl ⟨rfl, rfl⟩
  | some node =>
    cases node with
    | file file => exact absurd standing (fileless file)
    | directory => exact .inr ⟨rfl, rfl⟩

theorem Stands.isDirectory (stands : tree.Stands here path)
    (readable : ∃ names, pathNames path = .ok names)
    (short : ∀ name ∈ Path.names path, name.utf8ByteSize ≤ nameLimit) :
    tree.isDirectory here path = true := by
  obtain ⟨names, readable⟩ := readable
  obtain rfl := eq_names_of_pathNames readable
  have standing (front : List String) (initial : front <+: Path.names path) :
      tree.node? (lead (start here path) front) = some .directory :=
    stands _ ⟨_, initial.filter _, lead_filter _ front⟩
  have walked : tree.walk (start here path) (Path.names path) =
      .ok (lead (start here path) (Path.names path)) :=
    walk_eq_ok_iff.mpr ⟨rfl, short, fun front initial _ => standing front initial⟩
  have followed : tree.follow here path = .ok (lead (start here path) (Path.names path)) :=
    Outcome.bind_eq_ok_iff.mpr ⟨_, readable, walked⟩
  rw [FileTree.isDirectory, followed]
  simp [standing _ List.prefix_rfl]

theorem exists_pathNames_iff : (∃ names, pathNames path = .ok names) ↔
    '\x00' ∉ path.toList ∧ path ≠ "" ∧ path.utf8ByteSize < pathLimit := by
  unfold pathNames
  by_cases null : '\x00' ∈ path.toList
  · simp [null]
  · by_cases empty : path = ""
    · simp [empty]
    · by_cases long : pathLimit ≤ path.utf8ByteSize
      · simp [null, empty, long]
      · simp [null, empty, long, Nat.lt_of_not_le long]

/-- What begins as a path does can be looked up if the path can. -/
theorem exists_pathNames_of_prefix {front : String} (initial : front.toList <+: path.toList)
    (nonempty : front ≠ "") (readable : ∃ names, pathNames path = .ok names) :
    ∃ names, pathNames front = .ok names := by
  obtain ⟨nullFree, _, short⟩ := exists_pathNames_iff.mp readable
  obtain ⟨rest, split⟩ := initial
  have shorter : front.utf8ByteSize ≤ path.utf8ByteSize := by
    have whole : path = front ++ String.ofList rest := by
      rw [← String.toList_inj, String.toList_append, String.toList_ofList, split]
    rw [whole, String.utf8ByteSize_append]
    exact Nat.le_add_right _ _
  exact exists_pathNames_iff.mpr ⟨fun member => nullFree (split ▸ List.mem_append_left rest member),
    nonempty, Nat.lt_of_le_of_lt shorter short⟩

namespace Openable

theorem exists_names (openable : tree.Openable here path) :
    ∃ front name, Path.names path = front ++ [name] ∧ Path.isIdle name = false := by
  obtain ⟨name, last, leads⟩ := openable.name
  obtain ⟨front, split⟩ := List.getLast?_eq_some_iff.mp last
  exact ⟨front, name, split, leads⟩

theorem steps_ne_nil (openable : tree.Openable here path) : Path.steps path ≠ [] := by
  obtain ⟨front, name, split, leads⟩ := openable.exists_names
  simp [Path.steps, split, leads]

/-- Nothing keeps the directories of a log that can be opened from being made. -/
theorem clear (openable : tree.Openable here path) (parent : Path.parent? path = some above) :
    tree.Clear here above := by
  obtain ⟨through, trimmed, initial⟩ := Path.parent?_eq_some parent
  refine ⟨fun named => exists_pathNames_of_prefix initial named openable.readable, trimmed,
    fun name member => openable.short name ?_, (start_of_parent? parent).symm ▸ openable.start,
    fun place leads => (openable.way place ?_).2⟩
  · rw [through] at member
    exact List.mem_of_mem_filter ((List.dropLast_prefix _).subset member)
  · exact passes_of_leadsThrough parent openable.steps_ne_nil leads

/-- A log that can be opened is opened once its directories are made. -/
theorem openForAppend (openable : tree.Openable here path)
    (grown : Grows (MadeOnWay path here) tree after)
    (parent : Path.parent? path = some above) (stands : after.Stands here above) :
    ∃ opened, after.openForAppend here path = .ok opened := by
  obtain ⟨front, name, split, leads⟩ := openable.exists_names
  have nonempty : name ≠ "" := fun empty => by simp [empty, Path.isIdle] at leads
  have isLast : (Path.names path).getLast? = some name := by simp [split]
  have found := followNew_of_stands (.inr ⟨front, name, split, leads⟩) openable.readable
    openable.short (grown.node?_of_some openable.start)
    fun place passes => stands place (leadsThrough_of_passes parent passes)
  have vacant : after.node? (placeOf here path) ≠ some .directory := by
    intro isDirectory
    rcases grown.node?_cases (placeOf here path) with same | ⟨_, node, _, passes, _⟩
    · exact openable.vacant (same.symm.trans isDirectory)
    · exact (openable.way _ passes).1 rfl
  rw [dropTrailing_of_getLast? isLast nonempty] at found
  rw [FileTree.openForAppend, found]
  dsimp only [Bind.bind, Except.bind]
  cases standing : after.node? (placeOf here path) with
  | none => exact ⟨_, rfl⟩
  | some node =>
    cases node with
    | directory => exact absurd standing vacant
    | file file => exact ⟨_, rfl⟩

end Openable

/-- A path at which a file was opened can be walked to its end, where no directory stands. -/
theorem walk_of_openForAppend {opened : Nat × FileTree}
    (success : tree.openForAppend here path = .ok opened) :
    (∃ names, pathNames path = .ok names) ∧
      tree.walk (start here path) (Path.names path) = .ok (placeOf here path) ∧
      tree.node? (placeOf here path) ≠ some .directory := by
  obtain ⟨⟨place, trailing⟩, found, success⟩ := Outcome.bind_eq_ok_iff.mp success
  obtain rfl := followNew_eq_placeOf found
  obtain ⟨names, readable, found⟩ := Outcome.bind_eq_ok_iff.mp found
  obtain rfl := eq_names_of_pathNames readable
  obtain ⟨_, walked, same⟩ := Outcome.map_eq_ok_iff.mp found
  obtain ⟨rfl, rfl⟩ := Prod.mk.inj same
  dsimp only at success
  split at success
  case isTrue => cases success
  case isFalse whole =>
    have long : (Path.names path).length ≤ (dropTrailing (Path.names path)).1.length := by
      simpa [dropTrailing] using whole
    have walkedWhole : tree.walk (start here path) (dropTrailing (Path.names path)).1 =
      .ok (placeOf here path) := walked
    rw [(prefix_of_dropTrailing _).eq_of_length_le long] at walkedWhole
    refine ⟨⟨_, readable⟩, walkedWhole, fun isDirectory => ?_⟩
    rw [isDirectory] at success
    cases success

/-- A log that was opened after its directories were made could be opened before. -/
theorem openable_of_openForAppend {opened : Nat × FileTree}
    (grown : Grows (MadeOnWay path here) tree after)
    (success : after.openForAppend here path = .ok opened) : tree.Openable here path := by
  obtain ⟨readable, walked, vacant⟩ := walk_of_openForAppend success
  obtain ⟨isEnd, short, standing⟩ := walk_eq_ok_iff.mp walked
  have named : Path.names path ≠ [] := by
    simp [Path.names, Path.stretches_eq_splitOn]
  have standing_passed {place : List String} (passes : Passes here path place) :
      after.node? place = some .directory := by
    obtain ⟨front, initial, proper, rfl⟩ := passes
    obtain ⟨shown, shownInitial, rfl⟩ := List.prefix_filter_iff.mp initial
    rw [lead_filter]
    exact standing shown shownInitial fun same => proper (same ▸ rfl)
  refine ⟨readable, ?_, short, ?_, fun place passes => ⟨?_, ?_⟩, ?_⟩
  · -- Behind an idle name the path would end at the directory before it.
    rcases List.eq_nil_or_concat (Path.names path) with empty | ⟨front, name, split⟩
    · exact absurd empty named
    · rw [List.concat_eq_append] at split
      refine ⟨name, by simp [split], ?_⟩
      by_contra idle
      have proper : front ≠ Path.names path := by simp [split]
      have before := standing front (split ▸ List.prefix_append _ _) proper
      rw [split, lead_append, lead, if_pos (by simpa using idle), lead_nil] at isEnd
      exact vacant (isEnd ▸ before)
  · have begins := standing [] List.nil_prefix named.symm
    rcases grown.node?_cases (start here path) with same | ⟨_, node, _, _, apart, _⟩
    · exact same.symm.trans begins
    · exact absurd rfl apart
  · rintro rfl
    exact vacant (standing_passed passes)
  · intro file isFile
    have kept := grown.node?_of_some isFile
    rw [standing_passed passes] at kept
    cases kept
  · exact fun isDirectory => vacant (grown.node?_of_some isDirectory)

namespace Clear

theorem parent (clear : tree.Clear here path) (parent : Path.parent? path = some above) :
    tree.Clear here above := by
  obtain ⟨through, trimmed, initial⟩ := Path.parent?_eq_some parent
  have nonempty : path ≠ "" := by
    rintro rfl
    cases parent
  refine ⟨fun named => exists_pathNames_of_prefix initial named (clear.readable nonempty), trimmed,
    fun name member => clear.short name ?_, (start_of_parent? parent).symm ▸ clear.start,
    fun place leads => clear.way place ?_⟩
  · rw [through] at member
    exact (List.dropLast_prefix _).subset member
  · obtain ⟨front, among, isPlace⟩ := leads
    refine ⟨front, ?_, (start_of_parent? parent).symm ▸ isPlace⟩
    exact (through ▸ among).trans (List.dropLast_prefix _)

theorem grows {region : List String → FileNode → Prop}
    (onlyDirectories : ∀ place node, region place node → node = .directory)
    (clear : tree.Clear here path) (grown : Grows region tree after) : after.Clear here path where
  readable := clear.readable
  trimmed := clear.trimmed
  short := clear.short
  start := grown.node?_of_some clear.start
  way place through file isFile := by
    rcases grown.node?_cases place with same | ⟨_, node, standing, inside⟩
    · exact clear.way place through file (same.symm.trans isFile)
    · rw [standing, onlyDirectories place node inside] at isFile
      cases isFile

theorem stands_of_steps_eq_nil (clear : tree.Clear here path) (stays : Path.steps path = []) :
    tree.Stands here path := by
  rintro place ⟨front, initial, rfl⟩
  rw [stays] at initial
  rw [List.prefix_nil.mp initial]
  exact clear.start

/-- A directory cannot be made only where one is missing before the end. -/
theorem makeDirectory_cases (clear : tree.Clear here path) (nonempty : path ≠ "") :
    (∀ place, Passes here path place → tree.node? place = some .directory) ∨
      tree.makeDirectory here path = .error .notFound := by
  obtain ⟨names, readable⟩ := clear.readable nonempty
  obtain rfl := eq_names_of_pathNames readable
  have kept := prefix_of_dropTrailing (Path.names path)
  have through : (dropTrailing (Path.names path)).1.filter (!Path.isIdle ·) = Path.steps path :=
    filter_dropTrailing _
  have fileless : ∀ front, front <+: (dropTrailing (Path.names path)).1 →
      ∀ file, tree.node? (lead (FileTree.start here path) front) ≠ some (.file file) :=
    fun front initial => clear.way _ ⟨_, through ▸ initial.filter _, lead_filter _ front⟩
  have short := short_of_steps clear.short
  rcases walk_of_clear (fun name member => short name (kept.subset member)) fileless with
    ⟨place, walked⟩ | missing
  · left
    rintro _ ⟨front, initial, proper, rfl⟩
    rw [← through] at initial proper
    obtain ⟨shown, shownInitial, rfl⟩ := List.prefix_filter_iff.mp initial
    rw [lead_filter]
    exact (walk_eq_ok_iff.mp walked).2.2 shown shownInitial fun same => proper (same ▸ rfl)
  · right
    rw [makeDirectory, followNew, readable]
    change (tree.walk _ (dropTrailing (Path.names path)).1 >>= _) >>= _ = _
    rw [missing]
    rfl

end Clear

end FileTree

end ScreenedSuite
