import ScreenedSuite.CommandLine.Run
import ScreenedSuite.Pattern.Property
import ScreenedSuite.Storage.FileTree
import ScreenedSuite.Text.Moment
import Std.Time.DateTime.Timestamp

/-! # The program

The services of the actual system, and the entry point of the program.
-/

namespace ScreenedSuite.Main

/-- The code by which the system names an error, where it has one. -/
def osCode? : IO.Error → Option UInt32
  | .alreadyExists _ code _ => some code
  | .otherError code _ => some code
  | .resourceBusy code _ => some code
  | .resourceVanished code _ => some code
  | .unsupportedOperation code _ => some code
  | .hardwareFault code _ => some code
  | .unsatisfiedConstraints code _ => some code
  | .illegalOperation code _ => some code
  | .protocolError code _ => some code
  | .timeExpired code _ => some code
  | .interrupted _ code _ => some code
  | .noFileOrDirectory _ code _ => some code
  | .invalidArgument _ code _ => some code
  | .permissionDenied _ code _ => some code
  | .resourceExhausted _ code _ => some code
  | .inappropriateType _ code _ => some code
  | .noSuchThing _ code _ => some code
  | _ => none

/-- The code of an error, which some calls give with its sign changed. -/
def plainCode (code : UInt32) : UInt32 :=
  if 0x80000000 ≤ code then 0 - code else code

/-- The storage error behind an error of the system. -/
def storageError (error : IO.Error) : StorageError :=
  match (osCode? error).map plainCode with
  | some 2 => .notFound
  | some 16 => .busy
  | some 17 => .alreadyExists
  | some 20 => .notDirectory
  | some 21 => .isDirectory
  | some 36 => .nameTooLong
  | _ => .described (toString error)

/-- The result of an action, with a failure as a value. -/
def caught {α : Type} (action : IO α) : BaseIO (Except StorageError α) := do
  match ← EIO.toBaseIO action with
  | .ok value => return .ok value
  | .error error => return .error (storageError error)

/-- A staged file: its path and its open file. -/
structure StagedFile where
  path : String
  file : IO.FS.Handle

/-- Make a new file in a directory, trying one name after another. -/
def stageFrom (directory : String) : Nat → IO StagedFile
  | 0 => throw (IO.userError "too many temporary files exist")
  | attempts + 1 => do
    let path := Path.join directory (FileTree.stagedName (← IO.rand 0 999999))
    try
      return ⟨path, ← IO.FS.Handle.mk path .writeNew⟩
    catch error =>
      match error with
      | .alreadyExists .. => stageFrom directory attempts
      | error => throw error

/-- Stage a file. A failure tells the path that the file would have had. -/
def stage (directory : String) : BaseIO (Except StorageError StagedFile) := do
  match ← caught (do
    let here ← IO.currentDir
    let base := Path.join here.toString directory
    try
      return Except.ok (← stageFrom base 65536)
    catch error =>
      return Except.error
        (StorageError.atPath (Path.join base (FileTree.stagedName 0)) (storageError error))) with
  | .ok result => return result
  | .error error => return .error error

/-- Everything that a stream still holds. -/
partial def readAll (stream : IO.FS.Stream) (done : ByteArray) : IO ByteArray := do
  let more ← stream.read 65536
  if more.isEmpty then return done else readAll stream (done ++ more)

/-- The current time. -/
def currentTime : IO String := do
  let instant ← Std.Time.Timestamp.now
  return Text.momentText instant.toNanosecondsSinceUnixEpoch.val.toNat

/-- The real user of a process, by what the system tells about the process. -/
def userIn? (status : String) : Option String :=
  (status.splitOn "\n").findSome? fun line =>
    match line.splitOn "\t" with
    | "Uid:" :: user :: _ => some user
    | _ => none

/-- The home directory of a user in the list of accounts. -/
def homeIn? (accounts user : String) : Option String :=
  (accounts.splitOn "\n").findSome? fun line =>
    match line.splitOn ":" with
    | [_, _, number, _, _, home, _] => if number = user then some home else none
    | _ => none

/-- The home directory that the system keeps for the user's account. -/
def accountHome? : IO (Option String) := do
  let status ← IO.FS.readFile "/proc/self/status"
  let accounts ← IO.FS.readFile "/etc/passwd"
  return (userIn? status).bind (homeIn? accounts)

/-- Permissions of the owner alone. -/
def ownerOnly : IO.FileRight where
  user := { read := true, write := true }

/-- The services of the actual system. -/
def host : Host BaseIO IO.FS.Handle StagedFile where
  environment? name := IO.getEnv name
  accountHome? := do
    match ← EIO.toBaseIO accountHome? with
    | .ok home => return home
    | .error _ => return none
  now := do
    match ← EIO.toBaseIO currentTime with
    | .ok time => return time
    | .error _ => return ""
  readInput := caught do readAll (← IO.getStdin) .empty
  writeOutput text := caught do
    let output ← IO.getStdout
    output.putStr text
    output.flush
  tell notice := do
    let _ ← EIO.toBaseIO (IO.eprintln (notice.line Failure.message))
    return ()
  pathExists path := do
    match ← EIO.toBaseIO IO.currentDir with
    | .ok here => (here / path).pathExists
    | .error _ => return false
  isDirectory path := do
    match ← EIO.toBaseIO IO.currentDir with
    | .ok here => (here / path).isDir
    | .error _ => return false
  readFile path := caught (IO.FS.readBinFile path)
  makeDirectory path := caught (IO.FS.createDir path)
  openLog path := caught (IO.FS.Handle.mk path .append)
  appendLog file text := caught do
    file.putStr text
    file.flush
  stage := stage
  restrict staged := caught (IO.setAccessRights staged.path ownerOnly)
  fill staged text := caught (staged.file.putStr text)
  sync staged := caught staged.file.flush
  rename staged path := caught (IO.FS.rename staged.path path)
  remove staged := do
    let _ ← EIO.toBaseIO (IO.FS.removeFile staged.path)
    return ()

end ScreenedSuite.Main

/-- Run the program with the given arguments. -/
def main (arguments : List String) : IO UInt32 := do
  match ScreenedSuite.CommandLine.Options.ofArguments arguments with
  | .error .help =>
    IO.print ScreenedSuite.CommandLine.helpText
    return 0
  | .error .version =>
    IO.print ScreenedSuite.CommandLine.versionLine
    return 0
  | .error .usage =>
    IO.eprintln ScreenedSuite.CommandLine.usageLine
    return 2
  | .ok options =>
    let code ← (ScreenedSuite.CommandLine.run ScreenedSuite.Main.host .unicode options : BaseIO Nat)
    return code.toUInt32
