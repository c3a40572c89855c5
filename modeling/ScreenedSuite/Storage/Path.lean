/-! # Paths

A path is a text whose names are separated by slashes. Empty names and single dots do not lead
anywhere, except that a dot at the very start is kept when a path is cut.
-/

namespace ScreenedSuite.Path

/-- The stretches of a text between the occurrences of a character. -/
def stretches (mark : Char) : List Char → List (List Char)
  | [] => [[]]
  | c :: rest =>
    match stretches mark rest with
    | [] => [[]]
    | first :: more => if c == mark then [] :: first :: more else (c :: first) :: more

/-- The names between the slashes of a path. -/
def names (path : String) : List String :=
  (stretches '/' path.toList).map String.ofList

/-- Whether a name leads nowhere. -/
def isIdle (name : String) : Bool :=
  name == "" || name == "."

/-- Whether a path starts at the root. -/
def isAbsolute (path : String) : Bool :=
  path.toList.head? == some '/'

/-- A path taken from a directory. An absolute path stands for itself. -/
def join (directory path : String) : String :=
  if isAbsolute path || directory.isEmpty then path
  else if directory.toList.getLast? == some '/' then directory ++ path
  else directory ++ "/" ++ path

/-- Names without the idle ones at their end. -/
def trimIdle (names : List String) : List String :=
  (names.reverse.dropWhile isIdle).reverse

/-- A path without its last name. The root and the empty path have no parent. -/
def parent? (path : String) : Option String :=
  match names path with
  | [] => none
  | [""] => none
  | first :: rest =>
    if isIdle first then
      match trimIdle rest with
      | [] => if first == "." then some "" else none
      | inner =>
        match trimIdle inner.dropLast with
        | [] => some (if first == "" then "/" else ".")
        | above => some ("/".intercalate (first :: above))
    else
      some ("/".intercalate (trimIdle (trimIdle (first :: rest)).dropLast))

/-- The directories that a path goes through, the path itself first and without the directory it
starts from. -/
def ancestors (path : String) : List String :=
  climb path.length path
where
  /-- Up to a number of further steps towards the start. -/
  climb : Nat → String → List String
    | 0, _ => []
    | steps + 1, path =>
      match parent? path with
      | none => []
      | some above => if path == "" then [] else path :: climb steps above

/-- Whether a path is a single dash, which stands for the standard input. -/
def isDash (path : String) : Bool :=
  match names path with
  | "-" :: rest => rest.all isIdle
  | _ => false

end ScreenedSuite.Path
