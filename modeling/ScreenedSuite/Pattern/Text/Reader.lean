import ScreenedSuite.Pattern.Text.Bracket
import ScreenedSuite.Pattern.Weight

/-! # Reading pattern texts

A pattern text is read from left to right, branch by branch, with one recursive call per group. Each
part carries the nesting depth of its text, so that texts nested deeper than the limit are refused.
`Pattern.ofText?` looks up the properties that a text names, and also refuses patterns that are too
heavy.
-/

namespace ScreenedSuite.PatternText

/-- A pattern together with the nesting depth of its text. -/
structure Node where
  pattern : Pattern
  depth : Nat

/-- A part of a branch. A change of flags counts as a part but cannot be repeated. -/
inductive Part where
  | node (node : Node)
  | flags

/-- The pattern and depth of a part. -/
def Part.toNode : Part → Node
  | node inner => inner
  | flags => ⟨.empty, 0⟩

/-- The greatest depth among several nodes. -/
def deepest (nodes : List Node) : Nat :=
  (nodes.map (·.depth)).foldl max 0

/-- The sequence of the parts of a branch, which are given last first. -/
def closeBranch (parts : List Part) : Node :=
  match parts.reverse.map Part.toNode with
  | [] => ⟨.empty, 0⟩
  | [single] => single
  | nodes => ⟨.sequence (nodes.map (·.pattern)), deepest nodes + 1⟩

/-- The choice among the branches read so far, the last of which is still open. -/
def closeBranches (branches : List Node) (parts : List Part) : Node :=
  match branches with
  | [] => closeBranch parts
  | branches =>
    let nodes := (closeBranch parts :: branches).reverse
    ⟨.choice (nodes.map (·.pattern)), deepest nodes + 1⟩

/-- The last part of a branch under a repetition. -/
def repeatLast (least : Nat) (more : Option Nat) : List Part → Except PatternError (List Part)
  | .node inner :: rest => .ok (.node ⟨.rep inner.pattern least more, inner.depth + 1⟩ :: rest)
  | _ => .error .nothingToRepeat

/-- The text after white space, whatever the mode. -/
def dropBlanks (mode : Mode) : Nat → List Char → List Char
  | fuel + 1, c :: rest =>
    if Unicode.isBlank c then dropBlanks mode fuel (skip mode rest) else c :: rest
  | _, text => text

/-- The decimal digits at the start of a text. -/
def readDigits (mode : Mode) : Nat → Option Nat → List Char → Option Nat × List Char
  | fuel + 1, value, c :: rest =>
    if c.isDigit then
      readDigits mode fuel (some (value.getD 0 * 10 + (c.toNat - '0'.toNat))) (skip mode rest)
    else
      (value, c :: rest)
  | _, value, text => (value, text)

/-- A decimal number with white space around it. -/
def readDecimal (mode : Mode) (text : List Char) : Except PatternError (Nat × List Char) :=
  let text := text.dropWhile Unicode.isBlank
  match readDigits mode text.length none text with
  | (none, _) => .error .missingCount
  | (some value, rest) =>
    if value < Nat.pow 2 32 then .ok (value, dropBlanks mode rest.length rest)
    else .error .countTooLarge

/-- The text after a question mark that makes a repetition lazy. -/
def dropLazy : List Char → List Char
  | '?' :: rest => rest
  | text => text

/-- A repetition count after its opening brace: the least number of copies, how many more there may
be, and the text after it. -/
def readCount (mode : Mode) (text : List Char) :
    Except PatternError (Nat × Option Nat × List Char) := do
  match skip mode text with
  | [] => .error .unclosedCount
  | text =>
    let (least, rest) ← readDecimal mode text
    match rest with
    | '}' :: rest => return (least, some 0, dropLazy (skip mode rest))
    | ',' :: rest =>
      match skip mode rest with
      | [] => .error .unclosedCount
      | '}' :: rest => return (least, none, dropLazy (skip mode rest))
      | rest =>
        let (most, rest) ← readDecimal mode rest
        match rest with
        | '}' :: rest =>
          if least ≤ most then
            return (least, some (most - least), dropLazy (skip mode rest))
          else
            .error .countsReversed
        | _ => .error .unclosedCount
    | _ => .error .unclosedCount

/-- Whether a group name may hold a character, in its first place or later. -/
def isNameChar (first : Bool) (c : Char) : Bool :=
  c == '_' || Unicode.isAlphabetic c
    || (!first && (c == '.' || c == '[' || c == ']' || Unicode.isNumeric c))

/-- The name of a group up to the angle bracket that closes it, and the text after it. -/
def readName (name : List Char) : List Char → Except PatternError (List Char × List Char)
  | [] => .error .unfinishedGroupName
  | c :: rest =>
    if c == '>' then
      if name.isEmpty then .error .badGroupName else .ok (name.reverse, rest)
    else if isNameChar name.isEmpty c then
      readName (c :: name) rest
    else
      .error .badGroupName

/-- What an opening parenthesis begins. -/
inductive Opening where
  /-- A change of flags for the rest of the enclosing group. -/
  | flags (mode : Mode)
  /-- A group read under a mode. -/
  | group (mode : Mode)

/-- What follows an opening parenthesis. `names` are the group names met so far. -/
def readOpening (mode : Mode) (names : List (List Char)) (text : List Char) :
    Except PatternError (Opening × List (List Char) × List Char) := do
  match skip mode text with
  | '?' :: '=' :: _ => .error .lookAround
  | '?' :: '!' :: _ => .error .lookAround
  | '?' :: '<' :: '=' :: _ => .error .lookAround
  | '?' :: '<' :: '!' :: _ => .error .lookAround
  | '?' :: 'P' :: '<' :: rest => named rest
  | '?' :: '<' :: rest => named rest
  | '?' :: rest =>
    match rest with
    | [] => .error .unclosedGroup
    | _ =>
      let (settings, opens, rest) ← readFlags [] false false rest
      if opens then
        return (.group (mode.setAll settings.reverse), names, rest)
      else if settings.isEmpty then
        .error .nothingToRepeat
      else
        return (.flags (mode.setAll settings.reverse), names, rest)
  | rest => return (.group mode, names, rest)
where
  /-- A group with a name of its own. -/
  named (rest : List Char) : Except PatternError (Opening × List (List Char) × List Char) := do
    let (name, rest) ← readName [] rest
    if names.contains name then
      .error .repeatedGroupName
    else
      return (.group mode, name :: names, rest)

/-- A single character as a pattern. -/
def literalPattern (mode : Mode) (c : Char) (byte : Bool) : Except PatternError Pattern :=
  if mode.unicode then
    if mode.ignoreCase && (Unicode.caseVariants c).length > 1 then
      .ok (.char (.anyCase (.single c)))
    else
      .ok (.char (.single c))
  else if byte && c.toNat ≥ 0x80 then
    .error .splitsCharacters
  else if mode.ignoreCase && c.isAlpha then
    .ok (.char (.anyAsciiCase (.single c)))
  else
    .ok (.char (.single c))

/-- A character or an escape as a pattern. -/
def atomPattern (mode : Mode) : Atom → Except PatternError Pattern
  | .literal c byte => literalPattern mode c byte
  | .named set negated => return .char (← namedClass mode set negated)
  | .property name negated => .ok (.char (propertyClass mode name negated))
  | .look condition =>
    .ok (.look (condition (if mode.unicode then .word else CharClass.asciiWord)))

/-- The dot as a pattern. -/
def dotPattern (mode : Mode) : Except PatternError Pattern :=
  if !mode.unicode then .error .splitsCharacters
  else if mode.dotAll then .ok (.char .any)
  else if mode.crlf then .ok (.char (.other (.union [.single '\r', .single '\n'])))
  else .ok (.char (.other (.single '\n')))

/-- The condition of the caret. -/
def caretLook (mode : Mode) : Look :=
  if !mode.multiLine then .textStart else if mode.crlf then .crlfLineStart else .lineStart

/-- The condition of the dollar sign. -/
def dollarLook (mode : Mode) : Look :=
  if !mode.multiLine then .textEnd else if mode.crlf then .crlfLineEnd else .lineEnd

/-- A part that cannot contain others. -/
def readPrimitive (mode : Mode) : List Char → Except PatternError (Pattern × List Char)
  | [] => .error .nothingToRepeat
  | '\\' :: rest => do
    let (atom, rest) ← readEscape mode rest
    return (← atomPattern mode atom, rest)
  | '.' :: rest => return (← dotPattern mode, rest)
  | '^' :: rest => return (.look (caretLook mode), rest)
  | '$' :: rest => return (.look (dollarLook mode), rest)
  | c :: rest => return (← literalPattern mode c false, rest)

/-- The rest of a group's body up to its closing parenthesis or the end of the text. `parts` are the
parts of the open branch and `branches` the closed ones, both last first. -/
def readBody : Nat → Mode → List (List Char) → List Part → List Node → List Char →
    Except PatternError (Node × List (List Char) × List Char)
  | 0, _, _, _, _, _ => .error .nestedTooDeeply
  | fuel + 1, mode, names, parts, branches, text =>
    match skip mode text with
    | [] => .ok (closeBranches branches parts, names, [])
    | ')' :: rest => .ok (closeBranches branches parts, names, ')' :: rest)
    | '|' :: rest => readBody fuel mode names [] (closeBranch parts :: branches) rest
    | '(' :: rest => do
      let (opening, names, rest) ← readOpening mode names rest
      match opening with
      | .flags mode => readBody fuel mode names (.flags :: parts) branches rest
      | .group inner =>
        let (body, names, rest) ← readBody fuel inner names [] [] rest
        match rest with
        | ')' :: rest =>
          readBody fuel mode names (.node ⟨body.pattern, body.depth + 1⟩ :: parts) branches rest
        | _ => .error .unclosedGroup
    | '[' :: rest => do
      let (set, rest) ← readBracket mode rest
      readBody fuel mode names (.node ⟨.char set.chars, set.depth⟩ :: parts) branches rest
    | '?' :: rest => do
      readBody fuel mode names (← repeatLast 0 (some 1) parts) branches (dropLazy rest)
    | '*' :: rest => do
      readBody fuel mode names (← repeatLast 0 none parts) branches (dropLazy rest)
    | '+' :: rest => do
      readBody fuel mode names (← repeatLast 1 none parts) branches (dropLazy rest)
    | '{' :: rest => do
      let (least, more, rest) ← readCount mode rest
      readBody fuel mode names (← repeatLast least more parts) branches rest
    | text => do
      let (pattern, rest) ← readPrimitive mode text
      readBody fuel mode names (.node ⟨pattern, 0⟩ :: parts) branches rest

/-- The nesting depth that no pattern text may exceed. -/
def depthLimit : Nat :=
  250

/-- The pattern that a text writes. -/
def read (text : List Char) : Except PatternError Pattern := do
  let (body, _, rest) ← readBody (text.length + 1) {} [] [] [] text
  match rest with
  | [] => if body.depth ≤ depthLimit then return body.pattern else .error .nestedTooDeeply
  | _ => .error .unopenedGroup

end ScreenedSuite.PatternText

namespace ScreenedSuite

/-- The pattern that a text writes, unless it is too heavy. The table has the sets of the properties
that the text names. -/
def Pattern.ofText? (properties : PropertyTable) (text : String) : Except PatternError Pattern := do
  let pattern ← PatternText.read text.toList
  match pattern.lookUp properties with
  | none => .error .unknownProperty
  | some pattern => if pattern.weight ≤ weightLimit then return pattern else .error .tooLarge

end ScreenedSuite
