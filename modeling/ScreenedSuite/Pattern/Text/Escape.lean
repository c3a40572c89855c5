import ScreenedSuite.Pattern.Text.Mode
import ScreenedSuite.Text.Basic

/-! # Escapes in pattern texts

A backslash makes an operator character literal, writes a character by its code, names one of the
sets of digits, white space and word characters, names a property of characters, or states a
condition on the position.
-/

namespace ScreenedSuite.PatternText

/-- The sets that a single letter names. -/
inductive NamedSet where
  | digit
  | space
  | word
deriving DecidableEq

/-- What a character or an escape stands for. -/
inductive Atom where
  /-- A character; `byte` tells that it was written as a code of two hexadecimal digits. -/
  | literal (c : Char) (byte : Bool)
  /-- A named set or its complement. -/
  | named (set : NamedSet) (negated : Bool)
  /-- The characters with a property, or its complement. -/
  | property (name : PropertyName) (negated : Bool)
  /-- A condition on the position. -/
  | look (condition : CharClass → Look)

/-- The character with a code. -/
def characterOf (code : Nat) : Except PatternError Char :=
  if code.isValidChar then .ok (Char.ofNat code) else .error .badCharacterCode

/-- A code of a fixed number of hexadecimal digits. -/
def readFixedCode (mode : Mode) : Nat → Nat → List Char → Except PatternError (Nat × List Char)
  | 0, code, text => .ok (code, text)
  | _ + 1, _, [] => .error .unfinishedEscape
  | count + 1, code, c :: rest =>
    match Text.hexValue? c with
    | none => .error .badHexDigit
    | some digit => readFixedCode mode count (code * 16 + digit) (skip mode rest)

/-- A code in braces, after the opening brace. -/
def readBracedCode (mode : Mode) :
    Nat → Option Nat → List Char → Except PatternError (Nat × List Char)
  | 0, _, _ => .error .unfinishedEscape
  | _ + 1, _, [] => .error .unfinishedEscape
  | fuel + 1, code, c :: rest =>
    if c == '}' then
      match code with
      | none => .error .badHexDigit
      | some code => .ok (code, skip mode rest)
    else
      match Text.hexValue? c with
      | none => .error .badHexDigit
      | some digit =>
        readBracedCode mode fuel (some (code.getD 0 * 16 + digit)) (skip mode rest)

/-- The code after the letter that announces it; `digits` is the number of digits a code without
braces has. -/
def readCode (mode : Mode) (digits : Nat) (text : List Char) :
    Except PatternError (Atom × List Char) := do
  match skip mode text with
  | [] => .error .unfinishedEscape
  | '{' :: rest =>
    let (code, rest) ← readBracedCode mode (rest.length + 1) none (skip mode rest)
    return (.literal (← characterOf code) false, rest)
  | text =>
    let (code, rest) ← readFixedCode mode digits 0 text
    return (.literal (← characterOf code) (digits == 2), rest)

/-- The letters of a special word boundary and the text from its closing brace. -/
def readBoundaryName (mode : Mode) : Nat → List Char → List Char → List Char × List Char
  | 0, name, text => (name.reverse, text)
  | _ + 1, name, [] => (name.reverse, [])
  | fuel + 1, name, c :: rest =>
    if c.isAlpha || c == '-' then
      readBoundaryName mode fuel (c :: name) (skip mode rest)
    else
      (name.reverse, c :: rest)

/-- The condition after the letter `b`. A brace may name a special word boundary; a brace that holds
no letter is left for a repetition count. -/
def readBoundary (mode : Mode) (text : List Char) : Except PatternError (Atom × List Char) :=
  match text with
  | '{' :: rest =>
    match skip mode rest with
    | [] => .error .badWordBoundary
    | c :: inner =>
      if c.isAlpha || c == '-' then
        match readBoundaryName mode (rest.length + 1) [] (c :: inner) with
        | (name, '}' :: rest) =>
          if name == "start".toList then .ok (.look .wordStart, rest)
          else if name == "end".toList then .ok (.look .wordEnd, rest)
          else if name == "start-half".toList then .ok (.look .wordStartHalf, rest)
          else if name == "end-half".toList then .ok (.look .wordEndHalf, rest)
          else .error .badWordBoundary
        | _ => .error .badWordBoundary
      else
        .ok (.look .boundary, text)
  | _ => .ok (.look .boundary, text)

/-- The text in braces that names a property, after the opening brace, and the text after it. -/
def readBraced (mode : Mode) :
    Nat → List Char → List Char → Except PatternError (List Char × List Char)
  | 0, _, _ => .error .unfinishedEscape
  | _ + 1, _, [] => .error .unfinishedEscape
  | fuel + 1, braced, c :: rest =>
    if c == '}' then .ok (braced.reverse, rest)
    else readBraced mode fuel (c :: braced) (skip mode rest)

/-- What stands before and behind the first occurrence of a sign. -/
def cutAt? (sign : List Char) (front : List Char) : List Char → Option (List Char × List Char)
  | [] => none
  | c :: rest =>
    if sign.isPrefixOf (c :: rest) then some (front.reverse, (c :: rest).drop sign.length)
    else cutAt? sign (c :: front) rest

/-- The name of a property that stands in braces, and whether its sign asks for the complement. -/
def bracedName (braced : List Char) : PropertyName × Bool :=
  let valued (parts : List Char × List Char) : PropertyName :=
    .valued (String.ofList parts.1) (String.ofList parts.2)
  match cutAt? ['!', '='] [] braced, cutAt? [':'] [] braced, cutAt? ['='] [] braced with
  | some parts, _, _ => (valued parts, true)
  | none, some parts, _ => (valued parts, false)
  | none, none, some parts => (valued parts, false)
  | none, none, none => (.named (String.ofList braced), false)

/-- The property after the letter that announces it. -/
def readProperty (mode : Mode) (negated : Bool) (text : List Char) :
    Except PatternError (Atom × List Char) := do
  if !mode.unicode then .error .propertyWithoutUnicode
  match skip mode text with
  | [] => .error .unfinishedEscape
  | '\\' :: _ => .error .badPropertyName
  | '{' :: rest =>
    let (braced, rest) ← readBraced mode (rest.length + 1) [] (skip mode rest)
    let (name, complement) := bracedName braced
    return (.property name (negated != complement), rest)
  | c :: rest => return (.property (.letter c) negated, rest)

/-- Whether a backslash may stand before a character without changing it. -/
def isEscapable (c : Char) : Bool :=
  c.toNat < 0x80 && !c.isAlphanum && c != '<' && c != '>'

/-- The escape after its backslash. -/
def readEscape (mode : Mode) : List Char → Except PatternError (Atom × List Char)
  | [] => .error .unfinishedEscape
  | c :: rest =>
    if c.isDigit then .error .backReference
    else
      match c with
      | 'x' => readCode mode 2 rest
      | 'u' => readCode mode 4 rest
      | 'U' => readCode mode 8 rest
      | 'p' => readProperty mode false rest
      | 'P' => readProperty mode true rest
      | 'd' => .ok (.named .digit false, rest)
      | 's' => .ok (.named .space false, rest)
      | 'w' => .ok (.named .word false, rest)
      | 'D' => .ok (.named .digit true, rest)
      | 'S' => .ok (.named .space true, rest)
      | 'W' => .ok (.named .word true, rest)
      | 'a' => .ok (.literal '\x07' false, rest)
      | 'f' => .ok (.literal '\x0C' false, rest)
      | 't' => .ok (.literal '\t' false, rest)
      | 'n' => .ok (.literal '\n' false, rest)
      | 'r' => .ok (.literal '\r' false, rest)
      | 'v' => .ok (.literal '\x0B' false, rest)
      | 'A' => .ok (.look fun _ => .textStart, rest)
      | 'z' => .ok (.look fun _ => .textEnd, rest)
      | 'b' => readBoundary mode rest
      | 'B' => .ok (.look .noBoundary, rest)
      | '<' => .ok (.look .wordStart, rest)
      | '>' => .ok (.look .wordEnd, rest)
      | c => if isEscapable c then .ok (.literal c false, rest) else .error .unknownEscape

/-- The class of a named set. Without Unicode the set is the ASCII one, and its complement would
split characters. -/
def namedClass (mode : Mode) (set : NamedSet) (negated : Bool) : Except PatternError CharClass :=
  let plain :=
    match mode.unicode, set with
    | true, .digit => CharClass.digit
    | true, .space => CharClass.space
    | true, .word => CharClass.word
    | false, .digit => CharClass.asciiDigit
    | false, .space => CharClass.asciiSpace
    | false, .word => CharClass.asciiWord
  if !negated then .ok plain
  else if mode.unicode then .ok (.other plain)
  else .error .splitsCharacters

/-- The class closed under changing case, where the mode ignores case. -/
def foldCase (mode : Mode) (chars : CharClass) : CharClass :=
  if !mode.ignoreCase then chars
  else if mode.unicode then .anyCase chars
  else .anyAsciiCase chars

/-- The class of a property. Case is folded before the complement is taken. -/
def propertyClass (mode : Mode) (name : PropertyName) (negated : Bool) : CharClass :=
  if negated then .other (foldCase mode (.property name)) else foldCase mode (.property name)

end ScreenedSuite.PatternText
