import ScreenedSuite.Json.Basic
import ScreenedSuite.Json.Error
import ScreenedSuite.Json.Magnitude
import ScreenedSuite.Text.Basic

/-! # Reading JSON

A value is read from the front of a text, together with the text behind it. Arrays and objects may
be nested 127 deep. Every fault tells where it was noticed.
-/

namespace ScreenedSuite.Json

/-- What reading returns: a value and the unread text, or a fault. -/
abbrev Reading (α : Type) :=
  Except Fault (α × List Char)

/-- The text after the white space it starts with. -/
def skipSpace (text : List Char) : List Char :=
  text.dropWhile fun c => c == ' ' || c == '\t' || c == '\n' || c == '\r'

/-- A literal word after its first letter. -/
def readWord (value : Json) : List Char → List Char → Reading Json
  | [], text => .ok (value, text)
  | _ :: _, [] => .error (.before .unfinishedValue [])
  | expected :: more, c :: rest =>
    if c == expected then readWord value more rest
    else .error (.atByte .expectedLiteral (c :: rest))

/-- The value of a decimal digit. -/
def digitValue (c : Char) : Nat :=
  c.toNat - '0'.toNat

/-- The greatest significand that is kept in full. -/
def significandLimit : Nat :=
  Nat.pow 2 64 - 1

/-- The significand of a number's integer digits, and the number of digits left out of it. -/
def integerPart (significand : Nat) : List Char → Nat × Nat
  | [] => (significand, 0)
  | digit :: rest =>
    let extended := significand * 10 + digitValue digit
    if extended ≤ significandLimit then integerPart extended rest
    else (significand, rest.length + 1)

/-- The significand after a number's fraction digits, and how many of them it took in. -/
def fractionPart (significand taken : Nat) : List Char → Nat × Nat
  | [] => (significand, taken)
  | digit :: rest =>
    let extended := significand * 10 + digitValue digit
    if extended ≤ significandLimit then fractionPart extended (taken + 1) rest
    else (significand, taken)

/-- The greatest exponent that is kept. -/
def exponentLimit : Nat :=
  Nat.pow 2 31 - 1

/-- The exponent digits up to the first that exceeds the limit: the exponent, or the text after that
digit. -/
def exponentPart (value : Nat) : List Char → Except (List Char) (Nat × List Char)
  | [] => .ok (value, [])
  | c :: rest =>
    if c.isDigit then
      let extended := value * 10 + digitValue c
      if extended ≤ exponentLimit then exponentPart extended rest else .error rest
    else
      .ok (value, c :: rest)

/-- The end of a number whose digits are all read. -/
def closeNumber (significand : Nat) (exponent : Int) (rest : List Char) :
    Except Fault (List Char) :=
  if isOutOfRange significand exponent then .error (.before .numberOutOfRange rest)
  else .ok rest

/-- The exponent of a number after its letter. -/
def readExponent (significand : Nat) (exponent : Int) (text : List Char) :
    Except Fault (List Char) :=
  let (negative, text) :=
    match text with
    | '+' :: rest => (false, rest)
    | '-' :: rest => (true, rest)
    | text => (false, text)
  match text with
  | [] => .error (.before .unfinishedValue [])
  | c :: rest =>
    if !c.isDigit then .error (.atByte .invalidNumber (c :: rest))
    else
      match exponentPart 0 (c :: rest) with
      | .ok (value, rest) =>
        closeNumber significand (if negative then exponent - value else exponent + value) rest
      | .error rest =>
        if significand != 0 && !negative then .error (.before .numberOutOfRange rest)
        else .ok (rest.dropWhile (·.isDigit))

/-- The rest of a number after its integer digits. -/
def readFraction (significand dropped : Nat) (text : List Char) : Except Fault (List Char) :=
  match text with
  | '.' :: rest =>
    match rest.takeWhile (·.isDigit) with
    | [] =>
      if rest.isEmpty then .error (.before .unfinishedValue [])
      else .error (.atByte .invalidNumber rest)
    | digits =>
      let (significand, taken) := fractionPart significand 0 digits
      let exponent : Int := (dropped : Int) - taken
      match rest.dropWhile (·.isDigit) with
      | 'e' :: rest => readExponent significand exponent rest
      | 'E' :: rest => readExponent significand exponent rest
      | rest => closeNumber significand exponent rest
  | 'e' :: rest => readExponent significand dropped rest
  | 'E' :: rest => readExponent significand dropped rest
  | rest => closeNumber significand dropped rest

/-- The text after an unsigned number. -/
def readUnsigned : List Char → Except Fault (List Char)
  | [] => .error (.before .unfinishedValue [])
  | '0' :: rest =>
    match rest with
    | c :: _ =>
      if c.isDigit then .error (.atByte .invalidNumber rest) else readFraction 0 0 rest
    | [] => .ok []
  | c :: rest =>
    if c.isDigit then
      let (significand, dropped) := integerPart 0 ((c :: rest).takeWhile (·.isDigit))
      readFraction significand dropped ((c :: rest).dropWhile (·.isDigit))
    else
      .error (.atByte .invalidNumber (c :: rest))

/-- A number, kept as it is spelled. -/
def readNumber (text : List Char) : Reading Json :=
  let unsigned :=
    match text with
    | '-' :: rest => rest
    | text => text
  match readUnsigned unsigned with
  | .error fault => .error fault
  | .ok rest => .ok (.number (String.ofList (text.take (text.length - rest.length))), rest)

/-- The four hexadecimal digits of an escape. Four bytes are taken even where they are no digits. -/
def readHex (text : List Char) : Reading Nat :=
  let bad : Fault :=
    if Text.byteLength text < 4 then .before .unfinishedString []
    else ⟨.invalidEscape, Text.byteLength text - 4⟩
  match text with
  | a :: b :: c :: d :: rest =>
    match Text.hexValue? a, Text.hexValue? b, Text.hexValue? c, Text.hexValue? d with
    | some a, some b, some c, some d => .ok (((a * 16 + b) * 16 + c) * 16 + d, rest)
    | _, _, _, _ => .error bad
  | _ => .error bad

/-- The character of a Unicode escape after its letter; a character beyond U+FFFF takes two
escapes. -/
def readUnicodeEscape (text : List Char) : Except Fault (Char × List Char) := do
  let (first, rest) ← readHex text
  if 0xDC00 ≤ first && first ≤ 0xDFFF then
    .error (.before .loneSurrogate rest)
  else if first < 0xD800 || 0xDBFF < first then
    return (Char.ofNat first, rest)
  else
    match rest with
    | [] => .error (.before .unfinishedString [])
    | '\\' :: rest =>
      match rest with
      | [] => .error (.before .unfinishedString [])
      | 'u' :: rest =>
        let (second, rest) ← readHex rest
        if second < 0xDC00 || 0xDFFF < second then
          .error (.before .loneSurrogate rest)
        else
          return (Char.ofNat (0x10000 + (first - 0xD800) * 0x400 + (second - 0xDC00)), rest)
      | rest => .error (.atByte .unfinishedSurrogatePair rest)
    | rest => .error (.atByte .unfinishedSurrogatePair rest)

/-- The character of an escape after its backslash. -/
def readEscape : List Char → Reading Char
  | [] => .error (.before .unfinishedString [])
  | c :: rest =>
    match c with
    | '"' => .ok ('"', rest)
    | '\\' => .ok ('\\', rest)
    | '/' => .ok ('/', rest)
    | 'b' => .ok ('\x08', rest)
    | 'f' => .ok ('\x0C', rest)
    | 'n' => .ok ('\n', rest)
    | 'r' => .ok ('\r', rest)
    | 't' => .ok ('\t', rest)
    | 'u' => readUnicodeEscape rest
    | _ => .error (.atByte .invalidEscape (c :: rest))

/-- The rest of a string after its opening quote; `done` holds what was read, last first. -/
def readString : Nat → List Char → List Char → Reading String
  | 0, _, _ => .error (.before .unfinishedString [])
  | _ + 1, _, [] => .error (.before .unfinishedString [])
  | fuel + 1, done, c :: rest =>
    if c == '"' then .ok (String.ofList done.reverse, rest)
    else if c == '\\' then
      match readEscape rest with
      | .error fault => .error fault
      | .ok (escaped, rest) => readString fuel (escaped :: done) rest
    else if c.toNat < 0x20 then .error (.before .controlCharacter rest)
    else readString fuel (c :: done) rest

mutual

/-- A value. `depth` is how many more arrays and objects may be opened, less one. -/
def readValue : Nat → Nat → List Char → Reading Json
  | 0, _, _ => .error (.before .nestedTooDeeply [])
  | fuel + 1, depth, text =>
    match skipSpace text with
    | [] => .error (.before .unfinishedValue [])
    | c :: rest =>
      match c with
      | 'n' => readWord .null ['u', 'l', 'l'] rest
      | 't' => readWord (.bool true) ['r', 'u', 'e'] rest
      | 'f' => readWord (.bool false) ['a', 'l', 's', 'e'] rest
      | '"' =>
        match readString (rest.length + 1) [] rest with
        | .error fault => .error fault
        | .ok (text, rest) => .ok (.string text, rest)
      | '[' =>
        match depth with
        | 0 => .error (.atByte .nestedTooDeeply (c :: rest))
        | depth + 1 => readItems fuel depth [] rest
      | '\x7B' =>
        match depth with
        | 0 => .error (.atByte .nestedTooDeeply (c :: rest))
        | depth + 1 => readMembers fuel depth [] rest
      | c =>
        if c == '-' || c.isDigit then readNumber (c :: rest)
        else .error (.atByte .expectedValue (c :: rest))

/-- The rest of an array; `done` holds its items so far, last first. -/
def readItems : Nat → Nat → List Json → List Char → Reading Json
  | 0, _, _, _ => .error (.before .nestedTooDeeply [])
  | fuel + 1, depth, done, text =>
    match skipSpace text with
    | [] => .error (.before .unfinishedList [])
    | c :: rest =>
      if c == ']' then .ok (.array done.reverse, rest)
      else if done.isEmpty then
        match readValue fuel depth (c :: rest) with
        | .error fault => .error fault
        | .ok (item, rest) => readItems fuel depth [item] rest
      else if c == ',' then
        match skipSpace rest with
        | [] => .error (.before .unfinishedValue [])
        | ']' :: rest => .error (.atByte .trailingComma (']' :: rest))
        | rest =>
          match readValue fuel depth rest with
          | .error fault => .error fault
          | .ok (item, rest) => readItems fuel depth (item :: done) rest
      else
        .error (.atByte .expectedCommaOrBracket (c :: rest))

/-- The rest of an object; `done` holds its members so far, last first. -/
def readMembers : Nat → Nat → List (String × Json) → List Char → Reading Json
  | 0, _, _, _ => .error (.before .nestedTooDeeply [])
  | fuel + 1, depth, done, text =>
    match skipSpace text with
    | [] => .error (.before .unfinishedObject [])
    | c :: rest =>
      if c == '\x7D' then .ok (.object done.reverse, rest)
      else if done.isEmpty then
        if c == '"' then readMember fuel depth [] rest
        else .error (.atByte .expectedName (c :: rest))
      else if c == ',' then
        match skipSpace rest with
        | [] => .error (.before .unfinishedValue [])
        | '"' :: rest => readMember fuel depth done rest
        | '\x7D' :: rest => .error (.atByte .trailingComma ('\x7D' :: rest))
        | rest => .error (.atByte .expectedName rest)
      else
        .error (.atByte .expectedCommaOrBrace (c :: rest))

/-- A member after the opening quote of its name, and the rest of its object. -/
def readMember : Nat → Nat → List (String × Json) → List Char → Reading Json
  | 0, _, _, _ => .error (.before .nestedTooDeeply [])
  | fuel + 1, depth, done, text =>
    match readString (text.length + 1) [] text with
    | .error fault => .error fault
    | .ok (name, rest) =>
      match skipSpace rest with
      | [] => .error (.before .unfinishedObject [])
      | ':' :: rest =>
        match readValue fuel depth rest with
        | .error fault => .error fault
        | .ok (value, rest) => readMembers fuel depth ((name, value) :: done) rest
      | rest => .error (.atByte .expectedColon rest)

end

/-- How deep arrays and objects may be nested. -/
def nestingLimit : Nat :=
  127

/-- The value that a whole text writes, or where it fails to. -/
def readText (text : List Char) : Except Fault Json :=
  match readValue (2 * text.length + 2) nestingLimit text with
  | .error fault => .error fault
  | .ok (value, rest) =>
    match skipSpace rest with
    | [] => .ok value
    | rest => .error (.atByte .trailingCharacters rest)

/-- The value that a text writes. -/
def ofText? (text : String) : Except SyntaxError Json :=
  match readText text.toList with
  | .ok value => .ok value
  | .error fault => .error (SyntaxError.locate text.toList fault)

end ScreenedSuite.Json
