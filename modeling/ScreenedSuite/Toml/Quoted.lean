import ScreenedSuite.Text.Basic
import ScreenedSuite.Toml.Blank

/-! # Strings and keys

A string stands in double quotes, with escapes, or in single quotes, without. Three quotes open a
string that may run over several lines. A key is bare or a string on one line.
-/

namespace ScreenedSuite.Toml

/-- A character code of a fixed number of hexadecimal digits. -/
def readCode : Nat → Nat → List Char → Except Fault (Char × List Char)
  | 0, code, text =>
    if code.isValidChar then .ok (Char.ofNat code, text) else .error (.before .invalidEscape text)
  | count + 1, code, c :: rest =>
    match Text.hexValue? c with
    | some digit => readCode count (code * 16 + digit) rest
    | none => .error (.before .invalidEscape (c :: rest))
  | _ + 1, _, [] => .error (.before .invalidEscape [])

/-- The character of an escape after its backslash. -/
def readEscape : List Char → Except Fault (Char × List Char)
  | 'b' :: rest => .ok ('\x08', rest)
  | 'f' :: rest => .ok ('\x0C', rest)
  | 'n' :: rest => .ok ('\n', rest)
  | 'r' :: rest => .ok ('\r', rest)
  | 't' :: rest => .ok ('\t', rest)
  | '"' :: rest => .ok ('"', rest)
  | '\\' :: rest => .ok ('\\', rest)
  | 'u' :: rest => readCode 4 0 rest
  | 'U' :: rest => readCode 8 0 rest
  | text => .error (.before .invalidEscape text)

/-- The rest of a string in double quotes; `done` holds what was read, last first. -/
def readBasic : Nat → List Char → List Char → Except Fault (String × List Char)
  | fuel + 1, done, c :: rest =>
    if c == '"' then .ok (String.ofList done.reverse, rest)
    else if c == '\\' then do
      let (escaped, rest) ← readEscape rest
      readBasic fuel (escaped :: done) rest
    else if isPlain c then readBasic fuel (c :: done) rest
    else .error (.before .invalidCharacter (c :: rest))
  | _, _, text => .error (.before .unclosedString text)

/-- The rest of a string in single quotes. -/
def readLiteral (text : List Char) : Except Fault (String × List Char) :=
  let inner := text.takeWhile fun c => isPlain c && c != '\x27'
  match text.drop inner.length with
  | [] => .error (.before .unclosedString [])
  | c :: rest =>
    if c == '\x27' then .ok (String.ofList inner, rest)
    else .error (.before .invalidCharacter (c :: rest))

/-- The rest of a string over several lines. Up to two quotes may stand anywhere in it, also
before the three that close it. A backslash at the end of a line joins the lines. -/
def readLong (quote : Char) (escapes : Bool) :
    Nat → List Char → List Char → Except Fault (String × List Char)
  | fuel + 1, done, c :: rest =>
    if c == quote then
      let quotes := ((c :: rest).takeWhile (· == quote)).length
      if quotes < 3 then
        readLong quote escapes fuel (List.replicate quotes quote ++ done)
          ((c :: rest).drop quotes)
      else
        let extra := min (quotes - 3) 2
        .ok (String.ofList (List.replicate extra quote ++ done).reverse,
          (c :: rest).drop (3 + extra))
    else if escapes && c == '\\' then
      match afterBreak? (skipSpace rest) with
      | some rest => readLong quote escapes fuel done (skipBreaks rest.length rest)
      | none => do
        let (escaped, rest) ← readEscape rest
        readLong quote escapes fuel (escaped :: done) rest
    else
      match afterBreak? (c :: rest) with
      | some rest => readLong quote escapes fuel ('\n' :: done) rest
      | none =>
        if isPlain c then readLong quote escapes fuel (c :: done) rest
        else .error (.before .invalidCharacter (c :: rest))
  | _, _, text => .error (.before .unclosedString text)

/-- A string over several lines after its opening quotes. A line break right behind them is
dropped. -/
def readLongBody (quote : Char) (escapes : Bool) (text : List Char) :
    Except Fault (String × List Char) :=
  readLong quote escapes (text.length + 1) [] ((afterBreak? text).getD text)

/-- A string. -/
def readString : List Char → Except Fault (String × List Char)
  | '"' :: '"' :: '"' :: rest => readLongBody '"' true rest
  | '\x27' :: '\x27' :: '\x27' :: rest => readLongBody '\x27' false rest
  | '"' :: rest => readBasic (rest.length + 1) [] rest
  | '\x27' :: rest => readLiteral rest
  | text => .error (.before .expectedValue text)

/-- Whether a character may stand in a bare key. -/
def isBare (c : Char) : Bool :=
  c.isAlphanum || c == '_' || c == '-'

/-- A key without dots. -/
def readSimpleKey : List Char → Except Fault (String × List Char)
  | '"' :: rest => readBasic (rest.length + 1) [] rest
  | '\x27' :: rest => readLiteral rest
  | text =>
    match text.takeWhile isBare with
    | [] => .error (.before .expectedKey text)
    | name => .ok (String.ofList name, text.drop name.length)

/-- The number of nested values, and of parts of a key, that is too great. -/
def nestingLimit : Nat :=
  80

/-- A key whose parts are separated by dots: the parts before the last one, and the last one. -/
def readKey : Nat → List String → List Char → Except Fault ((List String × String) × List Char)
  | 0, _, text => .error (.before .expectedKey text)
  | fuel + 1, done, text => do
    let (part, rest) ← readSimpleKey (skipSpace text)
    match skipSpace rest with
    | '.' :: rest => readKey fuel (part :: done) rest
    | rest =>
      if done.length + 1 < nestingLimit then return ((done.reverse, part), rest)
      else .error (.before .nestedTooDeeply rest)

end ScreenedSuite.Toml
