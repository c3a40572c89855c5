import ScreenedSuite.Toml.Error

/-! # What separates the parts of a document

Spaces and tabs, comments, and the ends of lines.
-/

namespace ScreenedSuite.Toml

/-- The text after the spaces and tabs it starts with. -/
def skipSpace (text : List Char) : List Char :=
  text.dropWhile fun c => c == ' ' || c == '\t'

/-- Whether a character may stand for itself in comments and strings. -/
def isPlain (c : Char) : Bool :=
  c == '\t' || (0x20 ≤ c.toNat && c.toNat != 0x7F)

/-- The text after the line break it starts with. -/
def afterBreak? : List Char → Option (List Char)
  | '\n' :: rest => some rest
  | '\r' :: '\n' :: rest => some rest
  | _ => none

/-- The text after the comment it starts with. -/
def skipComment : List Char → List Char
  | '#' :: rest => rest.dropWhile isPlain
  | text => text

/-- The text after the rest of a line that holds nothing more. -/
def endLine (text : List Char) : Except Fault (List Char) :=
  match skipComment (skipSpace text) with
  | [] => .ok []
  | text =>
    match afterBreak? text with
    | some rest => .ok rest
    | none => .error (.before .expectedLineEnd text)

/-- The text after spaces, comments and line breaks. -/
def skipLines : Nat → List Char → List Char
  | 0, text => text
  | fuel + 1, text =>
    let start := skipSpace text
    match afterBreak? (skipComment start) with
    | some rest => skipLines fuel rest
    | none => start

/-- The text after spaces and line breaks. -/
def skipBreaks : Nat → List Char → List Char
  | 0, text => text
  | fuel + 1, text =>
    let start := skipSpace text
    match afterBreak? start with
    | some rest => skipBreaks fuel rest
    | none => start

end ScreenedSuite.Toml
