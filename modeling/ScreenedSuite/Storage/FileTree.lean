import ScreenedSuite.Storage.Error
import ScreenedSuite.Storage.Path

/-! # File trees

A file tree maps absolute places to directories and files. Every file has a number of its own, by
which an open file is known even after its place was given to another file. Paths are followed
name by name, and everything before the last name has to be a directory.
-/

namespace ScreenedSuite

/-- A file. -/
structure File where
  number : Nat
  content : ByteArray
  /-- The permission bits. -/
  mode : Nat

instance : DecidableEq File :=
  fun first second => decidable_of_iff
    (first.number = second.number ∧ first.content.data = second.content.data ∧
      first.mode = second.mode)
    (by rw [File.mk.injEq, ByteArray.ext_iff])

/-- What stands at a place. -/
inductive FileNode where
  | directory
  | file (file : File)
deriving DecidableEq

/-- Directories and files by their places. The root is always a directory. -/
structure FileTree where
  entries : List (List String × FileNode)

namespace FileTree

/-- What stands at a place. -/
def node? (tree : FileTree) (place : List String) : Option FileNode :=
  if place.isEmpty then some .directory
  else (tree.entries.find? (·.1 == place)).map (·.2)

/-- The tree without what stands at a place. -/
def erase (tree : FileTree) (place : List String) : FileTree :=
  ⟨tree.entries.filter (·.1 != place)⟩

/-- The tree with something put at a place. -/
def put (tree : FileTree) (place : List String) (node : FileNode) : FileTree :=
  ⟨(place, node) :: (tree.erase place).entries⟩

/-- A number that no file has. -/
def freshNumber (tree : FileTree) : Nat :=
  tree.entries.foldl (fun bound entry =>
    match entry.2 with
    | .directory => bound
    | .file file => max bound (file.number + 1)) 0

/-- The tree with a change made to the file of a number. -/
def updateFile (tree : FileTree) (number : Nat) (change : File → File) : FileTree :=
  ⟨tree.entries.map fun entry =>
    match entry.2 with
    | .directory => entry
    | .file file => if file.number = number then (entry.1, .file (change file)) else entry⟩

/-- The greatest length of a name, in bytes. -/
def nameLimit : Nat :=
  255

/-- The length that the bytes of a path have to stay below. -/
def pathLimit : Nat :=
  4096

/-- The place that names lead to from a place. -/
def walk (tree : FileTree) (here : List String) :
    List String → Except StorageError (List String)
  | [] => .ok here
  | name :: rest =>
    match tree.node? here with
    | none => .error .notFound
    | some (.file _) => .error .notDirectory
    | some .directory =>
      if Path.isIdle name then tree.walk here rest
      else if name == ".." then tree.walk here.dropLast rest
      else if nameLimit < name.utf8ByteSize then .error .nameTooLong
      else tree.walk (here ++ [name]) rest

/-- The names of a path, if it can be followed at all. -/
def pathNames (path : String) : Except StorageError (List String) :=
  if path.toList.contains '\x00' then .error .nullInPath
  else if path.isEmpty then .error .notFound
  else if pathLimit ≤ path.utf8ByteSize then .error .nameTooLong
  else .ok (Path.names path)

/-- The place that a path starts from, `here` being the current directory. -/
def start (here : List String) (path : String) : List String :=
  if Path.isAbsolute path then [] else here

/-- The place that a path leads to. -/
def follow (tree : FileTree) (here : List String) (path : String) :
    Except StorageError (List String) := do
  let names ← pathNames path
  tree.walk (start here path) names

/-- Names without the empty ones at their end, and whether there were any. -/
def dropTrailing (names : List String) : List String × Bool :=
  let kept := (names.reverse.dropWhile (· == "")).reverse
  (kept, kept.length < names.length)

/-- The place for a new entry at a path, and whether the path ends in a slash. -/
def followNew (tree : FileTree) (here : List String) (path : String) :
    Except StorageError (List String × Bool) := do
  let names ← pathNames path
  let (kept, trailing) := dropTrailing names
  let place ← tree.walk (start here path) kept
  return (place, trailing)

/-- Whether something stands at a path. -/
def pathExists (tree : FileTree) (here : List String) (path : String) : Bool :=
  match tree.follow here path with
  | .ok place => (tree.node? place).isSome
  | .error _ => false

/-- Whether a directory stands at a path. -/
def isDirectory (tree : FileTree) (here : List String) (path : String) : Bool :=
  match tree.follow here path with
  | .ok place => tree.node? place == some .directory
  | .error _ => false

/-- The content of the file at a path. -/
def read (tree : FileTree) (here : List String) (path : String) :
    Except StorageError ByteArray := do
  let place ← tree.follow here path
  match tree.node? place with
  | none => .error .notFound
  | some .directory => .error .isDirectory
  | some (.file file) => return file.content

/-- The tree with a new directory at a path. -/
def makeDirectory (tree : FileTree) (here : List String) (path : String) :
    Except StorageError FileTree := do
  let (place, _) ← tree.followNew here path
  match tree.node? place with
  | some _ => .error .alreadyExists
  | none => return tree.put place .directory

/-- The permission bits of a file made for appending, under the usual mask. -/
def usualMode : Nat :=
  0o644

/-- The permission bits of a file that only its owner may read and write. -/
def privateMode : Nat :=
  0o600

/-- The number of the file at a path, opened for appending, and the tree in which it exists. -/
def openForAppend (tree : FileTree) (here : List String) (path : String) :
    Except StorageError (Nat × FileTree) := do
  let (place, trailing) ← tree.followNew here path
  if trailing then .error .isDirectory
  else
    match tree.node? place with
    | some .directory => .error .isDirectory
    | some (.file file) => return (file.number, tree)
    | none =>
      let number := tree.freshNumber
      return (number, tree.put place (.file ⟨number, .empty, usualMode⟩))

/-- The tree with a new file, readable and writable by its owner only. -/
def createFile (tree : FileTree) (place : List String) : FileTree :=
  tree.put place (.file ⟨tree.freshNumber, .empty, privateMode⟩)

/-- The name of a file that a script is staged in. -/
def stagedName (tag : Nat) : String :=
  let digits := toString tag
  ".json2robot-" ++ String.ofList (List.replicate (6 - digits.length) '0') ++ digits
    ++ ".robot.tmp"

/-- A name of a staged file that nothing in a directory has. -/
def freshStagedName (tree : FileTree) (directory : List String) : String :=
  let isFree (tag : Nat) := (tree.node? (directory ++ [stagedName tag])).isNone
  stagedName (((List.range (tree.entries.length + 1)).find? isFree).getD 0)

/-- The place of a new file in a directory, and the tree in which it exists. -/
def stage (tree : FileTree) (here : List String) (directory : String) :
    Except StorageError (List String × FileTree) := do
  let above ← tree.follow here directory
  let name := tree.freshStagedName above
  let place ← tree.walk above [name]
  return (place, tree.createFile place)

/-- The tree after a file took the place that a path leads to. -/
def rename (tree : FileTree) (here : List String) (source : List String) (path : String) :
    Except StorageError FileTree := do
  let (place, trailing) ← tree.followNew here path
  let (kept, _) := dropTrailing (Path.names path)
  match kept.getLast? with
  | none => .error .busy
  | some name =>
    if name == "." || name == ".." then .error .busy
    else if trailing then .error .notDirectory
    else
      match tree.node? place, tree.node? source with
      | some .directory, _ => .error .isDirectory
      | _, none => .error .notFound
      | _, some node => return (tree.erase source).put place node

end FileTree

end ScreenedSuite
