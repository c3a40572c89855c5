import ScreenedSuite.Text.Quoted

/-! # Storage errors

The ways in which reading and writing files fails.
-/

namespace ScreenedSuite

/-- Why a file could not be read or written. -/
inductive StorageError where
  | notFound
  | alreadyExists
  | notDirectory
  | isDirectory
  | busy
  | nameTooLong
  /-- The path holds a null character. -/
  | nullInPath
  /-- The content is not encoded in UTF-8. -/
  | invalidText
  /-- A failure that befell a certain path. -/
  | atPath (path : String) (cause : StorageError)
  /-- A failure known only by its description. -/
  | described (text : String)
deriving DecidableEq, Repr

namespace StorageError

/-- The wording of an error. -/
def message : StorageError → String
  | notFound => "No such file or directory (os error 2)"
  | alreadyExists => "File exists (os error 17)"
  | notDirectory => "Not a directory (os error 20)"
  | isDirectory => "Is a directory (os error 21)"
  | busy => "Device or resource busy (os error 16)"
  | nameTooLong => "File name too long (os error 36)"
  | nullInPath => "file name contained an unexpected NUL byte"
  | invalidText => "stream did not contain valid UTF-8"
  | atPath path cause => s!"{cause.message} at path {Text.quotedPath path}"
  | described text => text

end StorageError

end ScreenedSuite
