import ScreenedSuite.Pattern.Basic
import ScreenedSuite.Pattern.Text.Error

/-! # Modes of a pattern text

The flags in force while a pattern text is read. They can change inside a group and return to their
former values at its end. In the extended mode white space and comments between the parts of a
pattern mean nothing.
-/

namespace ScreenedSuite.PatternText

/-- The flags in force. The defaults are those under which screening patterns are read: case is
ignored and the dot matches every character. -/
structure Mode where
  ignoreCase : Bool := true
  dotAll : Bool := true
  multiLine : Bool := false
  crlf : Bool := false
  unicode : Bool := true
  extended : Bool := false

/-- A flag letter with its new value. -/
abbrev Setting := Char × Bool

namespace Mode

/-- The letters of the flags. The letter `U` exchanges greedy and lazy repetition, which no answer
about occurrence depends on. -/
def letters : List Char :=
  ['i', 's', 'm', 'R', 'u', 'x', 'U']

/-- The mode after one flag has changed. -/
def set (mode : Mode) : Setting → Mode
  | ('i', value) => { mode with ignoreCase := value }
  | ('s', value) => { mode with dotAll := value }
  | ('m', value) => { mode with multiLine := value }
  | ('R', value) => { mode with crlf := value }
  | ('u', value) => { mode with unicode := value }
  | ('x', value) => { mode with extended := value }
  | _ => mode

/-- The mode after several flags have changed. -/
def setAll (mode : Mode) (settings : List Setting) : Mode :=
  settings.foldl set mode

end Mode

/-- The text after the white space and the comments it starts with. -/
def dropSpace (inComment : Bool) : List Char → List Char
  | [] => []
  | c :: rest =>
    if inComment then dropSpace (c != '\n') rest
    else if Unicode.isBlank c then dropSpace false rest
    else if c == '#' then dropSpace true rest
    else c :: rest

/-- The text from the next character that means something. -/
def skip (mode : Mode) (text : List Char) : List Char :=
  if mode.extended then dropSpace false text else text

/-- The flags of a group up to the colon or parenthesis that ends them, whether it was a colon, and
the text after it. -/
def readFlags (given : List Setting) (negated dangling : Bool) :
    List Char → Except PatternError (List Setting × Bool × List Char)
  | [] => .error .unfinishedFlags
  | c :: rest =>
    if c == ':' || c == ')' then
      if dangling then .error .danglingNegation else .ok (given, c == ':', rest)
    else if c == '-' then
      if negated then .error .repeatedNegation else readFlags given true true rest
    else if !Mode.letters.contains c then
      .error .unknownFlag
    else if given.any (·.1 == c) then
      .error .repeatedFlag
    else
      readFlags ((c, !negated) :: given) negated false rest

end ScreenedSuite.PatternText
