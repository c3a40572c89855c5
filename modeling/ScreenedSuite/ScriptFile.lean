import ScreenedSuite.Host
import ScreenedSuite.Storage.Path

/-! # Script files

A script is written to a file in two steps: it is staged in a new file beside the destination and
then put in its place. If anything fails, the staged file is removed and the destination stays as
it was.
-/

namespace ScreenedSuite.ScriptFile

variable {m : Type → Type} {log staged : Type} [Monad m]

/-- The directory in which the script for a destination is staged. -/
def stagingDirectory (destination : String) : String :=
  match Path.parent? destination with
  | none => "."
  | some parent => if parent.isEmpty then "." else parent

/-- Fill the staged file and put it in the place of the destination, up to the first failure. -/
def finish (host : Host m log staged) (file : staged) (destination text : String) :
    ExceptT StorageError m Unit := do
  ExceptT.mk (host.restrict file)
  ExceptT.mk (host.fill file text)
  ExceptT.mk (host.sync file)
  ExceptT.mk (host.rename file destination)

/-- Write a script to a destination. -/
def write (host : Host m log staged) (destination text : String) :
    m (Except StorageError Unit) := do
  match ← host.stage (stagingDirectory destination) with
  | .error error => return .error error
  | .ok file =>
    match ← (finish host file destination text).run with
    | .ok () => return .ok ()
    | .error error =>
      host.remove file
      return .error error

/-- The event for a script that is written. -/
def writtenEvent (destination text : String) : Event where
  severity := .debug
  message := "wrote script"
  fields := [("path", .text destination), ("bytes", .text (toString text.utf8ByteSize))]

end ScreenedSuite.ScriptFile
