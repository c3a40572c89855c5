import ScreenedSuite.Unicode.Unprintable

/-! # Quoted texts in messages

A message quotes a text with its quotes, backslashes and unprintable characters escaped. In the
text of a path the single quote is escaped as well.
-/

namespace ScreenedSuite.Text

/-- A character of a quoted text; `also` holds the further characters that take a backslash. -/
def quotedChar (also : List Char) (c : Char) : List Char :=
  if c == '"' || c == '\\' || also.contains c then ['\\', c]
  else if c == '\t' then ['\\', 't']
  else if c == '\n' then ['\\', 'n']
  else if c == '\r' then ['\\', 'r']
  else if c == '\x00' then ['\\', '0']
  else if Unicode.isUnprintable c then
    ['\\', 'u', '\x7B'] ++ Nat.toDigits 16 c.toNat ++ ['\x7D']
  else [c]

/-- A text in double quotes. -/
def quoted (text : String) : String :=
  String.ofList ('"' :: text.toList.flatMap (quotedChar []) ++ ['"'])

/-- The text of a path in double quotes. -/
def quotedPath (path : String) : String :=
  String.ofList ('"' :: path.toList.flatMap (quotedChar ['\x27']) ++ ['"'])

end ScreenedSuite.Text
