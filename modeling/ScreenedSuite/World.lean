import ScreenedSuite.Host
import ScreenedSuite.Storage.FileTree

/-! # Worlds

A world is a whole system as a value: a file tree, the environment, what stands on the standard
input and what was written so far. Over it every run is a function. A storage call can also fail
for reasons outside the world; which calls do is listed in advance.
-/

namespace ScreenedSuite

/-- The state of a system. -/
structure World where
  tree : FileTree := ⟨[]⟩
  /-- The current directory. -/
  here : List String := []
  environment : List (String × String) := []
  /-- The home directory that the system keeps for the user's account. -/
  accountHome : Option String := none
  input : ByteArray := .empty
  /-- What was written to the standard output. -/
  output : String := ""
  /-- What was told, last first. -/
  told : List Notice := []
  /-- For the storage calls to come, the failure from outside, if there is one. -/
  outages : List (Option StorageError) := []
  time : String := ""

namespace World

/-- A call that reads or changes the world, unless it fails for an outside reason. -/
def call {α : Type} (action : World → Except StorageError (α × World)) :
    StateM World (Except StorageError α) := fun world =>
  let next := { world with outages := world.outages.tail }
  match world.outages.head?.join with
  | some error => (.error error, next)
  | none =>
    match action next with
    | .ok (value, after) => (.ok value, after)
    | .error error => (.error error, next)

/-- The text of a place. -/
def pathOf (place : List String) : String :=
  "/" ++ "/".intercalate place

/-- A call that only changes the file tree. -/
def treeCall (change : World → Except StorageError FileTree) :
    StateM World (Except StorageError Unit) :=
  call fun world => do
    let tree ← change world
    return ((), { world with tree })

/-- The path that a file staged in a directory has. It starts from the root. -/
def stagedPath (here : List String) (directory : String) : String :=
  Path.join (Path.join (pathOf here) directory) (FileTree.stagedName 0)

/-- Stage a file. A failure tells the path that the file would have had. -/
def stage (directory : String) : StateM World (Except StorageError (List String)) :=
  call fun world =>
    let path := stagedPath world.here directory
    match FileTree.pathNames path >>= fun _ => world.tree.stage world.here directory with
    | .ok (place, tree) => .ok (place, { world with tree })
    | .error error => .error (.atPath path error)

/-- Change the file at a place. -/
def changeFile (place : List String) (change : File → File) :
    StateM World (Except StorageError Unit) :=
  treeCall fun world =>
    match world.tree.node? place with
    | some (.file file) => .ok (world.tree.put place (.file (change file)))
    | _ => .error .notFound

/-- The services of a world. An open log is the number of its file, a staged file its place. To
remove a staged file is assumed to succeed. -/
def host : Host (StateM World) Nat (List String) where
  environment? name := do return ((← get).environment.find? (·.1 == name)).map (·.2)
  accountHome? := do return (← get).accountHome
  now := do return (← get).time
  readInput := do return .ok (← get).input
  writeOutput text := call fun world => .ok ((), { world with output := world.output ++ text })
  tell notice := modify fun world => { world with told := notice :: world.told }
  pathExists path := do
    let world ← get
    return world.tree.pathExists world.here path
  isDirectory path := do
    let world ← get
    return world.tree.isDirectory world.here path
  readFile path := call fun world => do
    let content ← world.tree.read world.here path
    return (content, world)
  makeDirectory path := treeCall fun world => world.tree.makeDirectory world.here path
  openLog path := call fun world => do
    let (number, tree) ← world.tree.openForAppend world.here path
    return (number, { world with tree })
  appendLog number text := treeCall fun world =>
    .ok (world.tree.updateFile number fun file =>
      { file with content := file.content ++ text.toUTF8 })
  stage := stage
  restrict place := changeFile place fun file => { file with mode := FileTree.privateMode }
  fill place text := changeFile place fun file => { file with content := text.toUTF8 }
  sync _ := treeCall fun world => .ok world.tree
  rename place path := treeCall fun world => world.tree.rename world.here place path
  remove place := modify fun world => { world with tree := world.tree.erase place }

end World

end ScreenedSuite
