import ScreenedSuite.Event
import ScreenedSuite.Storage.Error

/-! # Hosts

What a run needs from the system it runs on. Everything else is decided by the library, over any
host.
-/

namespace ScreenedSuite

/-- A line that a run tells its user beside the script. -/
inductive Notice where
  | event (event : Event)
  /-- The failure that ends the run. -/
  | failed (failure : Failure)
  /-- The actions that have a template. -/
  | supportedActions (names : List String)
  /-- The findings as JSON text. -/
  | report (text : String)
deriving DecidableEq, Repr

/-- The text of a notice, given how failures are worded. -/
def Notice.line (describe : Failure → String) : Notice → String
  | event told => told.line describe
  | failed failure => s!"Error: {describe failure}"
  | supportedActions names => "Supported actions: " ++ ", ".intercalate names
  | report text => text

/-- The services of a system, as effects in `m`. An open log file is a `log`, and a file that a
script is staged in is a `staged`. -/
structure Host (m : Type → Type) (log staged : Type) where
  /-- The value of an environment variable. -/
  environment? : String → m (Option String)
  /-- The home directory that the system keeps for the user's account. -/
  accountHome? : m (Option String)
  /-- The current time in the form of a log entry. -/
  now : m String
  /-- Everything on the standard input. -/
  readInput : m (Except StorageError ByteArray)
  /-- Write to the standard output. -/
  writeOutput : String → m (Except StorageError Unit)
  /-- Tell the user something. -/
  tell : Notice → m Unit
  /-- Whether something stands at a path. -/
  pathExists : String → m Bool
  /-- Whether a directory stands at a path. -/
  isDirectory : String → m Bool
  /-- The content of the file at a path. -/
  readFile : String → m (Except StorageError ByteArray)
  /-- Make a directory whose parent exists. -/
  makeDirectory : String → m (Except StorageError Unit)
  /-- Open a file for appending, making it if need be. -/
  openLog : String → m (Except StorageError log)
  /-- Append to an open file. -/
  appendLog : log → String → m (Except StorageError Unit)
  /-- Make a new empty file in a directory, under a name that nothing has. -/
  stage : String → m (Except StorageError staged)
  /-- Let only the owner read and write a staged file. -/
  restrict : staged → m (Except StorageError Unit)
  /-- Set the content of a staged file. -/
  fill : staged → String → m (Except StorageError Unit)
  /-- Wait until a staged file has reached the disk. -/
  sync : staged → m (Except StorageError Unit)
  /-- Put a staged file in the place that a path leads to. -/
  rename : staged → String → m (Except StorageError Unit)
  /-- Remove a staged file. -/
  remove : staged → m Unit

end ScreenedSuite
