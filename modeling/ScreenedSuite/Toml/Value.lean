import ScreenedSuite.Toml.Assembly
import ScreenedSuite.Toml.Date
import ScreenedSuite.Toml.Number
import ScreenedSuite.Toml.Quoted

/-! # Reading values

An array may run over several lines and may end with a comma. A table in braces stays on one line.
Values are nested less than eighty deep.
-/

namespace ScreenedSuite.Toml

/-- A value that is a fixed word. -/
def readWord (word : List Char) (value : Toml) (text : List Char) :
    Except Fault (Toml × List Char) :=
  if word.isPrefixOf text then .ok (value, text.drop word.length)
  else .error (.before .expectedValue text)

/-- A number, a date or a time. -/
def readNumeric (text : List Char) : Except Fault (Toml × List Char) :=
  match dateTime? text with
  | some (some rest) => .ok (.dateTime, rest)
  | some none => .error (.before .invalidDate text)
  | none => readNumber text

mutual

/-- A value. `depth` is how many more arrays and tables may be opened. -/
def readValue : Nat → Nat → List Char → Except Fault (Toml × List Char)
  | 0, _, text => .error (.before .expectedValue text)
  | _ + 1, _, [] => .error (.before .expectedValue [])
  | fuel + 1, depth, c :: rest =>
    if c == '[' then
      match depth with
      | 0 => .error (.before .nestedTooDeeply (c :: rest))
      | depth + 1 => readItems fuel depth [] (skipLines rest.length rest)
    else if c == '\x7B' then
      match depth with
      | 0 => .error (.before .nestedTooDeeply (c :: rest))
      | depth + 1 =>
        match skipSpace rest with
        | '\x7D' :: rest => .ok (.table [], rest)
        | rest => readPairs fuel depth [] rest
    else if c == '"' || c == '\x27' then do
      let (text, rest) ← readString (c :: rest)
      return (.string text, rest)
    else if c == 't' then readWord ['t', 'r', 'u', 'e'] (.boolean true) (c :: rest)
    else if c == 'f' then readWord ['f', 'a', 'l', 's', 'e'] (.boolean false) (c :: rest)
    else if c == 'i' || c == 'n' || c == '+' || c == '-' || c.isDigit then
      readNumeric (c :: rest)
    else .error (.before .expectedValue (c :: rest))

/-- The rest of an array, at an item or at its end; `done` holds its items so far, last first. -/
def readItems : Nat → Nat → List Toml → List Char → Except Fault (Toml × List Char)
  | _, _, done, ']' :: rest => .ok (.array done.reverse, rest)
  | 0, _, _, text => .error (.before .expectedClosing text)
  | fuel + 1, depth, done, text => do
    let (item, rest) ← readValue fuel depth text
    match skipLines rest.length rest with
    | ',' :: rest => readItems fuel depth (item :: done) (skipLines rest.length rest)
    | ']' :: rest => return (.array (item :: done).reverse, rest)
    | rest => .error (.before .expectedClosing rest)

/-- The rest of a table in braces, at an entry; `done` holds its entries so far, last first. -/
def readPairs : Nat → Nat → List Assignment → List Char → Except Fault (Toml × List Char)
  | 0, _, _, text => .error (.before .expectedClosing text)
  | fuel + 1, depth, done, text => do
    let (assignment, rest) ← readAssignment fuel depth text
    match skipSpace rest with
    | ',' :: rest => readPairs fuel depth (assignment :: done) rest
    | '\x7D' :: rest =>
      match assignAll (assignment :: done).reverse [] with
      | .ok entries => return (.table (Node.entriesToToml entries), rest)
      | .error _ => .error (.before .expectedKey text)
    | rest => .error (.before .expectedClosing rest)

/-- A key, an equals sign and a value. -/
def readAssignment : Nat → Nat → List Char → Except Fault (Assignment × List Char)
  | 0, _, text => .error (.before .expectedKey text)
  | fuel + 1, depth, text => do
    let ((path, name), rest) ← readKey (text.length + 1) [] text
    match rest with
    | '=' :: rest =>
      let (value, rest) ← readValue fuel depth (skipSpace rest)
      return (⟨path, name, value⟩, rest)
    | rest => .error (.before .expectedEquals rest)

end

end ScreenedSuite.Toml
