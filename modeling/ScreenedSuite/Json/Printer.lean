import ScreenedSuite.Json.Basic
import ScreenedSuite.Text.Basic

/-! # Printing JSON

The compact form: no white space between tokens, members in order. Within strings only the quote,
the backslash and the controls below U+0020 are escaped.
-/

namespace ScreenedSuite.Json

/-- A character inside a string. -/
def escapeChar (c : Char) : List Char :=
  if c == '"' then ['\\', '"']
  else if c == '\\' then ['\\', '\\']
  else if c == '\x08' then ['\\', 'b']
  else if c == '\x0C' then ['\\', 'f']
  else if c == '\n' then ['\\', 'n']
  else if c == '\r' then ['\\', 'r']
  else if c == '\t' then ['\\', 't']
  else if c.toNat < 0x20 then
    ['\\', 'u', '0', '0', Text.hexDigit (c.toNat / 16), Text.hexDigit (c.toNat % 16)]
  else [c]

/-- A string in its quotes. -/
def quoted (text : String) : List Char :=
  '"' :: (text.toList.flatMap escapeChar ++ ['"'])

mutual

/-- The characters of a value. -/
def chars : Json → List Char
  | null => "null".toList
  | bool true => "true".toList
  | bool false => "false".toList
  | number spelling => spelling.toList
  | string text => quoted text
  | array items => '[' :: itemChars items
  | object members => '\x7B' :: memberChars members

/-- The rest of an array. -/
def itemChars : List Json → List Char
  | [] => [']']
  | [item] => item.chars ++ [']']
  | item :: rest => item.chars ++ ',' :: itemChars rest

/-- The rest of an object. -/
def memberChars : List (String × Json) → List Char
  | [] => ['\x7D']
  | [(name, value)] => quoted name ++ ':' :: (value.chars ++ ['\x7D'])
  | (name, value) :: rest => quoted name ++ ':' :: (value.chars ++ ',' :: memberChars rest)

end

/-- The compact text of a value. -/
def compact (value : Json) : String :=
  String.ofList value.chars

end ScreenedSuite.Json
