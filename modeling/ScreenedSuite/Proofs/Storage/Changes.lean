import Mathlib.Data.List.Nodup
import Mathlib.Data.List.Pairwise
import Mathlib.Data.List.Perm.Subperm
import Mathlib.Data.Nat.Digits.Defs
import Mathlib.Data.String.Basic
import ScreenedSuite.Proofs.Storage.Places

/-! # Changes of file trees

What each change of a tree does to what stands at every place. A tree is without links if no two
of its places share a file. Opening a log only adds directories and an empty file where nothing
was, and staging a script only adds a file under a name that nothing has.
-/

namespace ScreenedSuite

/-- What is left of something after a change to the file of a number. -/
def FileNode.changed (number : Nat) (change : File → File) : FileNode → FileNode
  | .directory => .directory
  | .file held => .file (if held.number = number then change held else held)

/-- The first number above that of a file. -/
def FileNode.numberBound : FileNode → Nat
  | .directory => 0
  | .file held => held.number + 1

/-- The number of a file. -/
def FileNode.number? : FileNode → Option Nat
  | .directory => none
  | .file held => some held.number

namespace FileTree

variable {tree after : FileTree} {here place other : List String}

/-! ## Single changes -/

@[simp] theorem node?_nil (tree : FileTree) : tree.node? [] = some .directory :=
  rfl

theorem node?_of_ne_nil (tree : FileTree) (place : List String) (below : place ≠ []) :
    tree.node? place = (tree.entries.find? (·.1 == place)).map (·.2) := by
  simp [node?, below]

theorem ne_nil_of_node?_eq_none (free : tree.node? place = none) : place ≠ [] := by
  rintro rfl
  simp at free

theorem node?_erase_of_ne (tree : FileTree) (apart : other ≠ place) :
    (tree.erase place).node? other = tree.node? other := by
  by_cases root : other = []
  · simp [root]
  · have kept : (fun entry : List String × FileNode => decide (entry.1 ≠ place ∧ entry.1 = other)) =
        fun entry => entry.1 == other := by
      funext entry
      by_cases same : entry.1 = other
      · simp [same, apart]
      · simp [same]
    simp only [node?_of_ne_nil _ _ root, erase, List.find?_filter, bne_iff_ne, beq_iff_eq, kept]

theorem node?_erase_self (tree : FileTree) (below : place ≠ []) :
    (tree.erase place).node? place = none := by
  rw [node?_of_ne_nil _ _ below, Option.map_eq_none_iff, List.find?_eq_none]
  intro entry member
  have other := (List.mem_filter.mp member).2
  simpa using other

theorem node?_put_self (tree : FileTree) (below : place ≠ []) (node : FileNode) :
    (tree.put place node).node? place = some node := by
  simp [node?_of_ne_nil _ _ below, put]

theorem node?_put_of_ne (tree : FileTree) (apart : other ≠ place) (node : FileNode) :
    (tree.put place node).node? other = tree.node? other := by
  rw [← node?_erase_of_ne tree apart]
  by_cases root : other = []
  · simp [root]
  · simp [node?_of_ne_nil _ _ root, put, apart.symm]

theorem updateFile_eq (tree : FileTree) (number : Nat) (change : File → File) :
    tree.updateFile number change =
      ⟨tree.entries.map fun entry => (entry.1, entry.2.changed number change)⟩ := by
  rw [updateFile]
  congr 2
  funext entry
  obtain ⟨place, node⟩ := entry
  cases node with
  | directory => rfl
  | file file =>
    by_cases same : file.number = number
    · simp [FileNode.changed, same]
    · simp [FileNode.changed, same]

theorem node?_updateFile (tree : FileTree) (number : Nat) (change : File → File)
    (place : List String) :
    (tree.updateFile number change).node? place =
      (tree.node? place).map (FileNode.changed number change) := by
  by_cases root : place = []
  · simp [root, FileNode.changed]
  · simp [node?_of_ne_nil _ _ root, updateFile_eq, List.find?_map, Function.comp_def]

theorem mem_entries_of_node?_eq_some {node : FileNode} (below : place ≠ [])
    (found : tree.node? place = some node) : (place, node) ∈ tree.entries := by
  rw [node?_of_ne_nil _ _ below, Option.map_eq_some_iff] at found
  obtain ⟨entry, found, isNode⟩ := found
  have same : entry.1 = place := by simpa using List.find?_some found
  exact same ▸ isNode ▸ List.mem_of_find?_eq_some found

theorem mem_entries_of_node?_eq_file {file : File} (found : tree.node? place = some (.file file)) :
    (place, FileNode.file file) ∈ tree.entries := by
  apply mem_entries_of_node?_eq_some _ found
  rintro rfl
  simp at found

theorem freshNumber_eq (tree : FileTree) :
    tree.freshNumber = (tree.entries.map (·.2.numberBound)).foldl max 0 := by
  rw [freshNumber, List.foldl_map]
  congr
  funext bound entry
  obtain ⟨place, node⟩ := entry
  cases node with
  | directory => exact (Nat.max_zero bound).symm
  | file held => rfl

/-- No file has the fresh number. -/
theorem number_lt_freshNumber {file : File} (found : tree.node? place = some (.file file)) :
    file.number < tree.freshNumber := by
  have member := List.mem_map_of_mem (f := fun entry : List String × FileNode =>
    entry.2.numberBound) (mem_entries_of_node?_eq_file found)
  have bounded : file.number + 1 ≤ _ := List.le_max?_getD_of_mem (k := 0) member
  rw [freshNumber_eq, List.foldl_max]
  exact Nat.lt_of_lt_of_le bounded (Nat.le_max_right ..)

/-! ## The files at places -/

/-- The number of the file at a place, if a file stands there. -/
def numberAt (tree : FileTree) (place : List String) : Option Nat :=
  (tree.node? place).bind (·.number?)

theorem numberAt_eq_some_iff {number : Nat} : tree.numberAt place = some number ↔
    ∃ file, tree.node? place = some (.file file) ∧ file.number = number := by
  rw [numberAt, Option.bind_eq_some_iff]
  constructor
  · rintro ⟨node, there, isNumber⟩
    cases node with
    | directory => cases isNumber
    | file file => exact ⟨file, there, Option.some.inj isNumber⟩
  · rintro ⟨file, there, isNumber⟩
    exact ⟨.file file, there, congrArg some isNumber⟩

/-- A change that keeps the numbers of files keeps which file is where. -/
theorem numberAt_updateFile {number : Nat} {change : File → File}
    (kept : ∀ file, (change file).number = file.number) (place : List String) :
    (tree.updateFile number change).numberAt place = tree.numberAt place := by
  rw [numberAt, numberAt, node?_updateFile, Option.bind_map]
  congr 1
  funext node
  cases node with
  | directory => rfl
  | file file =>
    by_cases same : file.number = number
    · simp [FileNode.changed, FileNode.number?, same, kept]
    · simp [FileNode.changed, FileNode.number?, same]

/-- A change to the file of a number changes only the places of this file. -/
theorem node?_updateFile_of_numberAt_ne {number : Nat}
    (apart : tree.numberAt other ≠ some number) (change : File → File) :
    (tree.updateFile number change).node? other = tree.node? other := by
  rw [node?_updateFile]
  cases there : tree.node? other with
  | none => rfl
  | some node =>
    cases node with
    | directory => rfl
    | file held =>
      have different : held.number ≠ number := fun same =>
        apart (numberAt_eq_some_iff.mpr ⟨held, there, same⟩)
      simp [FileNode.changed, different]

/-! ## Trees without links -/

/-- Whether no two places share a file. -/
def LinkFree (tree : FileTree) : Prop :=
  ∀ first second firstFile secondFile, tree.node? first = some (.file firstFile) →
    tree.node? second = some (.file secondFile) → firstFile.number = secondFile.number →
    first = second

/-- A tree whose files have numbers of their own is without links. -/
theorem linkFree_of_nodup (distinct : (tree.entries.filterMap (·.2.number?)).Nodup) :
    tree.LinkFree := by
  let Apart (first second : List String × FileNode) : Prop :=
    ∀ number, first.2.number? = some number →
      ∀ other, second.2.number? = some other → number ≠ other
  have symmetric : Std.Symm Apart :=
    ⟨fun _ _ apart number isSecond other isFirst => (apart other isFirst number isSecond).symm⟩
  have apart : tree.entries.Pairwise Apart := List.pairwise_filterMap.mp distinct
  intro first second firstFile secondFile foundFirst foundSecond same
  by_contra different
  have clash := apart.forall (mem_entries_of_node?_eq_file foundFirst)
    (mem_entries_of_node?_eq_file foundSecond) fun both => different (Prod.mk.inj both).1
  exact clash _ rfl _ rfl same

/-- The bytes at a place, of which there are none unless a file stands there. -/
def contentAt (tree : FileTree) (place : List String) : ByteArray :=
  match tree.node? place with
  | some (.file file) => file.content
  | _ => .empty

/-- A change to the file of a number changes one place of a tree without links. -/
theorem LinkFree.node?_updateFile_of_ne (linkFree : tree.LinkFree) {file : File}
    (found : tree.node? place = some (.file file)) (apart : other ≠ place) (change : File → File) :
    (tree.updateFile file.number change).node? other = tree.node? other := by
  apply node?_updateFile_of_numberAt_ne
  intro same
  obtain ⟨held, there, sameNumber⟩ := numberAt_eq_some_iff.mp same
  exact apart (linkFree other place held file there found sameNumber)

theorem contentAt_updateFile {file : File} (found : tree.node? place = some (.file file))
    (change : File → File) :
    (tree.updateFile file.number change).contentAt place = (change file).content := by
  simp [contentAt, node?_updateFile, found, FileNode.changed]

/-! ## Growing trees -/

/-- Something without content: a directory, or a new empty file. -/
inductive Blank (tree : FileTree) : FileNode → Prop
  | directory : Blank tree .directory
  | file : Blank tree (.file ⟨tree.freshNumber, .empty, usualMode⟩)

/-- A new file has a number that no file had. -/
theorem Blank.number_ne {file held : File} (blank : Blank tree (.file file))
    (found : tree.node? place = some (.file held)) : held.number ≠ file.number := by
  cases blank with
  | file => exact (number_lt_freshNumber found).ne

/-- One tree grows into another: things without content are put at free places. The region tells
what can be put where. -/
inductive Grows (region : List String → FileNode → Prop) (tree : FileTree) : FileTree → Prop
  | refl : Grows region tree tree
  | put {middle : FileTree} {place : List String} {node : FileNode} :
    Grows region tree middle → region place node → middle.node? place = none →
      Blank middle node → Grows region tree (middle.put place node)

namespace Grows

variable {region : List String → FileNode → Prop}

theorem trans {last : FileTree} (first : Grows region tree after)
    (second : Grows region after last) : Grows region tree last := by
  induction second with
  | refl => exact first
  | put _ inside free blank ih => exact ih.put inside free blank

theorem mono {wider : List String → FileNode → Prop} (grows : Grows region tree after)
    (within : ∀ place node, region place node → wider place node) : Grows wider tree after := by
  induction grows with
  | refl => exact .refl
  | put _ inside free blank ih => exact ih.put (within _ _ inside) free blank

/-- What stands at a place is as it was, or it is new. -/
theorem node?_cases (grows : Grows region tree after) (place : List String) :
    after.node? place = tree.node? place ∨
      tree.node? place = none ∧ ∃ node, after.node? place = some node ∧ region place node := by
  induction grows with
  | refl => exact .inl rfl
  | @put middle added node _ inside free _ ih =>
    by_cases same : place = added
    · subst same
      have standing := node?_put_self middle (ne_nil_of_node?_eq_none free) node
      rw [free] at ih
      rcases ih with kept | ⟨was, _, absurdity, _⟩
      · exact .inr ⟨kept.symm, node, standing, inside⟩
      · cases absurdity
    · rw [node?_put_of_ne _ same]
      exact ih

/-- Nothing goes away. -/
theorem node?_of_some (grows : Grows region tree after) {node : FileNode}
    (standing : tree.node? place = some node) : after.node? place = some node := by
  rcases grows.node?_cases place with same | ⟨free, _⟩
  · exact same.trans standing
  · rw [standing] at free
    cases free

theorem contentAt_eq (grows : Grows region tree after) (place : List String) :
    after.contentAt place = tree.contentAt place := by
  induction grows with
  | refl => rfl
  | @put middle added node _ _ free blank ih =>
    by_cases same : place = added
    · subst same
      have below := ne_nil_of_node?_eq_none free
      rw [← ih, contentAt, contentAt, node?_put_self _ below, free]
      cases blank with
      | directory => rfl
      | file => rfl
    · rw [← ih, contentAt, contentAt, node?_put_of_ne _ same]

theorem linkFree (grows : Grows region tree after) (linkFree : tree.LinkFree) :
    after.LinkFree := by
  induction grows with
  | refl => exact linkFree
  | @put middle added node _ _ free blank ih =>
    have below := ne_nil_of_node?_eq_none free
    intro first second firstFile secondFile foundFirst foundSecond same
    by_cases atFirst : first = added
    · by_cases atSecond : second = added
      · rw [atFirst, atSecond]
      · -- Only the first file can be new, and then it shares its number with no other.
        rw [atFirst, node?_put_self _ below, Option.some.injEq] at foundFirst
        rw [node?_put_of_ne _ atSecond] at foundSecond
        exact absurd same.symm ((foundFirst ▸ blank).number_ne foundSecond)
    · rw [node?_put_of_ne _ atFirst] at foundFirst
      by_cases atSecond : second = added
      · rw [atSecond, node?_put_self _ below, Option.some.injEq] at foundSecond
        exact absurd same ((foundSecond ▸ blank).number_ne foundFirst)
      · rw [node?_put_of_ne _ atSecond] at foundSecond
        exact ih first second firstFile secondFile foundFirst foundSecond same

end Grows

/-- A directory that is made is put at a free place, and not where its path starts. -/
theorem grows_of_makeDirectory {path : String} {region : List String → FileNode → Prop}
    (inside : placeOf here path ≠ start here path → region (placeOf here path) .directory)
    (made : tree.makeDirectory here path = .ok after) :
    Grows region tree after := by
  obtain ⟨⟨place, trailing⟩, found, made⟩ := Outcome.bind_eq_ok_iff.mp made
  obtain rfl := followNew_eq_placeOf found
  dsimp only at made
  split at made
  case h_1 => cases made
  case h_2 free =>
    obtain rfl := Except.ok.inj made
    exact Grows.refl.put (inside (placeOf_ne_start found free)) free .directory

/-- A file opened for appending stands at the place of its path. -/
theorem grows_of_openForAppend {path : String} {number : Nat}
    (region : List String → FileNode → Prop)
    (inside : ∀ file, region (placeOf here path) (.file file))
    (opened : tree.openForAppend here path = .ok (number, after)) :
    Grows region tree after ∧
      ∃ file, after.node? (placeOf here path) = some (.file file) ∧ file.number = number := by
  obtain ⟨⟨place, trailing⟩, found, opened⟩ := Outcome.bind_eq_ok_iff.mp opened
  obtain rfl := followNew_eq_placeOf found
  dsimp only at opened
  split at opened
  case isTrue => cases opened
  case isFalse =>
    split at opened
    case h_1 => cases opened
    case h_2 file there =>
      obtain ⟨rfl, rfl⟩ := Prod.mk.inj (Except.ok.inj opened)
      exact ⟨.refl, file, there, rfl⟩
    case h_3 free =>
      obtain ⟨rfl, rfl⟩ := Prod.mk.inj (Except.ok.inj opened)
      have stands := node?_put_self tree (ne_nil_of_node?_eq_none free)
      exact ⟨Grows.refl.put (inside _) free .file, _, stands _, rfl⟩

/-! ## Staging -/

/-- Zeros in front of a number do not change it. -/
theorem ofDigitChars_padded (count tag : Nat) :
    Nat.ofDigitChars 10 (List.replicate count '0' ++ Nat.toDigits 10 tag) 0 = tag := by
  induction count with
  | zero => simp
  | succ count ih =>
    rw [List.replicate_succ, List.cons_append, Nat.ofDigitChars_cons]
    exact ih

theorem stagedName_injective : Function.Injective stagedName := by
  intro first second same
  simp only [stagedName, String.append_left_inj] at same
  simp only [← String.toList_inj, String.toList_append, String.toList_ofList, List.append_assoc,
    List.append_cancel_left_eq, Nat.toString_eq_repr, Nat.toList_repr] at same
  rw [← ofDigitChars_padded _ first, same, ofDigitChars_padded]

/-- The name of a staged file is none of the names that stay or climb. -/
theorem stagedName_leads (tag : Nat) :
    Path.isIdle (stagedName tag) = false ∧ stagedName tag ≠ ".." := by
  have long : 3 ≤ (stagedName tag).length := by
    simp only [stagedName, String.length_append]
    have first : ".json2robot-".length = 12 := rfl
    omega
  have apart : ∀ short : String, short.length ≤ 2 → stagedName tag ≠ short := by
    rintro short bound rfl
    omega
  refine ⟨?_, apart ".." (by decide)⟩
  simp [Path.isIdle, beq_eq_false_iff_ne.mpr (apart "" (by decide)),
    beq_eq_false_iff_ne.mpr (apart "." (by decide))]

theorem utf8ByteSize_le (text : String) : text.utf8ByteSize ≤ 4 * text.length := by
  rw [← String.utf8Len_toList, ← String.length_toList]
  induction text.toList with
  | nil => exact Nat.zero_le _
  | cons c rest ih =>
    have bound := c.utf8Size_le_four
    simp only [String.utf8Len_cons, List.length_cons]
    omega

/-- The name of a staged file whose tag has at most six digits is not too long. -/
theorem utf8ByteSize_stagedName_le {tag : Nat} (short : tag < 10 ^ 6) :
    (stagedName tag).utf8ByteSize ≤ nameLimit := by
  have digits : (toString tag).length ≤ 6 := by
    rw [Nat.toString_eq_repr, ← String.length_toList, Nat.toList_repr]
    exact Nat.toDigits_length 10 tag 6 (by decide) short
  have front : ".json2robot-".length = 12 := rfl
  have back : ".robot.tmp".length = 10 := rfl
  have length : (stagedName tag).length = 28 := by
    simp only [stagedName, String.length_append, String.length_ofList, List.length_replicate]
    omega
  calc
    (stagedName tag).utf8ByteSize ≤ 4 * (stagedName tag).length := utf8ByteSize_le _
    _ ≤ nameLimit := by rw [length]; decide

/-- Of more names than there are entries one is free. -/
theorem exists_free (tree : FileTree) (directory : List String) :
    ∃ tag ∈ List.range (tree.entries.length + 1),
      tree.node? (directory ++ [stagedName tag]) = none := by
  by_contra taken
  push Not at taken
  let candidate (tag : Nat) := directory ++ [stagedName tag]
  have apart : Function.Injective candidate := fun first second same =>
    stagedName_injective (List.singleton_inj.mp (List.append_cancel_left same))
  have distinct : ((List.range (tree.entries.length + 1)).map candidate).Nodup :=
    List.Nodup.map apart List.nodup_range
  have listed : (List.range (tree.entries.length + 1)).map candidate ⊆
      tree.entries.map (·.1) := by
    intro place member
    obtain ⟨tag, inRange, rfl⟩ := List.mem_map.mp member
    have below : candidate tag ≠ [] := List.append_ne_nil_of_right_ne_nil _ (List.cons_ne_nil _ _)
    obtain ⟨node, found⟩ := Option.ne_none_iff_exists'.mp (taken tag inRange)
    exact List.mem_map.mpr ⟨_, mem_entries_of_node?_eq_some below found, rfl⟩
  have tooMany := (distinct.subperm listed).length_le
  rw [List.length_map, List.length_map, List.length_range] at tooMany
  omega

theorem node?_freshStagedName (tree : FileTree) (directory : List String) :
    tree.node? (directory ++ [tree.freshStagedName directory]) = none := by
  obtain ⟨tag, inRange, free⟩ := exists_free tree directory
  rw [freshStagedName]
  cases found : (List.range (tree.entries.length + 1)).find? fun tag =>
      (tree.node? (directory ++ [stagedName tag])).isNone with
  | none => exact absurd (by simpa using free) (List.find?_eq_none.mp found tag inRange)
  | some first => simpa using List.find?_some found

/-- The name for a staged file has the first tag that is free. -/
theorem exists_freshStagedName_eq {directory : List String} {tag : Nat}
    (free : tree.node? (directory ++ [stagedName tag]) = none) :
    ∃ first ≤ tag, tree.freshStagedName directory = stagedName first := by
  obtain ⟨candidate, inRange, isFree⟩ := exists_free tree directory
  rw [freshStagedName]
  cases found : (List.range (tree.entries.length + 1)).find? fun tag =>
      (tree.node? (directory ++ [stagedName tag])).isNone with
  | none => exact absurd (by simpa using isFree) (List.find?_eq_none.mp found candidate inRange)
  | some first =>
    refine ⟨first, Nat.le_of_not_lt fun later => ?_, rfl⟩
    have taken := (List.find?_range_eq_some.mp found).2.2 tag later
    simp [free] at taken

/-- In a directory that has a name left a file can be staged. -/
theorem exists_stage_eq_ok {directory : String} {tag : Nat}
    (isDirectory : tree.isDirectory here directory = true) (short : tag < 10 ^ 6)
    (free : tree.node? (placeOf here directory ++ [stagedName tag]) = none) :
    ∃ place, tree.stage here directory = .ok (place, tree.createFile place) := by
  rw [FileTree.isDirectory] at isDirectory
  split at isDirectory
  case h_2 => cases isDirectory
  case h_1 above followed =>
    obtain rfl := follow_eq_placeOf followed
    have standing : tree.node? (placeOf here directory) = some .directory := by
      simpa using isDirectory
    obtain ⟨first, bound, isName⟩ := exists_freshStagedName_eq free
    obtain ⟨leads, stays⟩ := stagedName_leads first
    have fits : ¬ nameLimit < (stagedName first).utf8ByteSize :=
      Nat.not_lt.mpr (utf8ByteSize_stagedName_le (Nat.lt_of_le_of_lt bound short))
    refine ⟨placeOf here directory ++ [stagedName first], ?_⟩
    refine Outcome.bind_eq_ok_iff.mpr ⟨_, followed, ?_⟩
    refine Outcome.bind_eq_ok_iff.mpr ⟨placeOf here directory ++ [stagedName first], ?_, rfl⟩
    simp [isName, walk, standing, leads, stays, fits]

/-- A file is staged at a free place. -/
theorem stage_eq_ok {directory : String} (staged : tree.stage here directory = .ok (place, after)) :
    tree.node? place = none ∧ after = tree.createFile place := by
  obtain ⟨above, -, staged⟩ := Outcome.bind_eq_ok_iff.mp staged
  obtain ⟨found, walked, same⟩ := Outcome.map_eq_ok_iff.mp staged
  obtain ⟨rfl, rfl⟩ := Prod.mk.inj same
  obtain ⟨tag, isName⟩ : ∃ tag, tree.freshStagedName above = stagedName tag := ⟨_, rfl⟩
  have below : found = above ++ [tree.freshStagedName above] := by
    rw [walk_eq_lead walked, lead_eq_append]
    simpa [isName] using stagedName_leads tag
  exact ⟨below ▸ node?_freshStagedName tree above, rfl⟩

/-- A file that is renamed stands where the path leads, and nowhere else. -/
theorem rename_eq_ok {path : String} (renamed : tree.rename here place path = .ok after) :
    ∃ node, tree.node? place = some node ∧ placeOf here path ≠ [] ∧
      after = (tree.erase place).put (placeOf here path) node := by
  obtain ⟨⟨destination, trailing⟩, found, renamed⟩ := Outcome.bind_eq_ok_iff.mp renamed
  obtain rfl := followNew_eq_placeOf found
  dsimp only at renamed
  split at renamed
  case h_1 => cases renamed
  case h_2 =>
    split at renamed
    case isTrue => cases renamed
    case isFalse =>
      split at renamed
      case isTrue => cases renamed
      case isFalse =>
        split at renamed
        case h_1 => cases renamed
        case h_2 => cases renamed
        case h_3 node there noDirectory =>
          have below : placeOf here path ≠ [] := fun root => noDirectory (by rw [root]; rfl)
          exact ⟨node, there, below, (Except.ok.inj renamed).symm⟩

/-- A file can take the place of another file, and a free place. -/
theorem rename_of_follow {path name : String} {source destination : List String} {node : FileNode}
    (last : (Path.names path).getLast? = some name) (leads : Path.isIdle name = false)
    (stays : name ≠ "..") (found : tree.follow here path = .ok destination)
    (vacant : tree.node? destination ≠ some .directory) (there : tree.node? source = some node) :
    tree.rename here source path = .ok ((tree.erase source).put destination node) := by
  obtain ⟨names, readable, walked⟩ := Outcome.bind_eq_ok_iff.mp found
  obtain rfl := eq_names_of_pathNames readable
  simp only [Path.isIdle, Bool.or_eq_false_iff, beq_eq_false_iff_ne] at leads
  have whole := dropTrailing_of_getLast? last leads.1
  have new : tree.followNew here path = .ok (destination, false) := by
    refine Outcome.bind_eq_ok_iff.mpr ⟨_, readable, ?_⟩
    simp only [whole]
    exact Outcome.bind_eq_ok_iff.mpr ⟨_, walked, rfl⟩
  have ordinary : (name == "." || name == "..") = false := by simp [leads.2, stays]
  rw [rename, new]
  simp only [whole, last, there]
  change (if (name == "." || name == "..") = true then _ else _) = _
  rw [ordinary]
  cases standing : tree.node? destination with
  | none => rfl
  | some standingNode =>
    cases standingNode with
    | directory => exact absurd standing vacant
    | file held => rfl

end FileTree

end ScreenedSuite
