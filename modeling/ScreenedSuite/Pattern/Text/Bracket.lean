import ScreenedSuite.Pattern.Text.Escape

/-! # Bracketed classes

A bracketed class lists characters, ranges, named sets and further bracketed classes, and may
combine such lists with `&&`, `--` and `~~`, from left to right. Case is folded on every list that
an operator combines and on the whole class, before a class is negated.
-/

namespace ScreenedSuite.PatternText

/-- A class together with the nesting depth of its text. -/
structure SetNode where
  chars : CharClass
  depth : Nat

/-- The operators that combine two lists. -/
inductive SetOp where
  | intersection
  | difference
  | symmetricDifference

/-- The class of an operator. -/
def SetOp.combine : SetOp → CharClass → CharClass → CharClass
  | intersection => .both
  | difference => .without
  | symmetricDifference => .oneOf

/-- The ASCII classes that have a name. -/
def asciiClass? : List Char → Option CharClass
  | ['a', 'l', 'n', 'u', 'm'] => some (.union [.range '0' '9', .range 'A' 'Z', .range 'a' 'z'])
  | ['a', 'l', 'p', 'h', 'a'] => some (.union [.range 'A' 'Z', .range 'a' 'z'])
  | ['a', 's', 'c', 'i', 'i'] => some (.range '\x00' '\x7F')
  | ['b', 'l', 'a', 'n', 'k'] => some (.union [.single '\t', .single ' '])
  | ['c', 'n', 't', 'r', 'l'] => some (.union [.range '\x00' '\x1F', .single '\x7F'])
  | ['d', 'i', 'g', 'i', 't'] => some (.range '0' '9')
  | ['g', 'r', 'a', 'p', 'h'] => some (.range '!' '~')
  | ['l', 'o', 'w', 'e', 'r'] => some (.range 'a' 'z')
  | ['p', 'r', 'i', 'n', 't'] => some (.range ' ' '~')
  | ['p', 'u', 'n', 'c', 't'] =>
    some (.union [.range '!' '/', .range ':' '@', .range '[' '\x60', .range '\x7B' '~'])
  | ['s', 'p', 'a', 'c', 'e'] => some CharClass.asciiSpace
  | ['u', 'p', 'p', 'e', 'r'] => some (.range 'A' 'Z')
  | ['w', 'o', 'r', 'd'] => some CharClass.asciiWord
  | ['x', 'd', 'i', 'g', 'i', 't'] =>
    some (.union [.range '0' '9', .range 'A' 'F', .range 'a' 'f'])
  | _ => none

/-- A named ASCII class after its opening bracket: the class, whether it is negated, and the text
after it. Anything else is an ordinary nested class. -/
def readAsciiClass? : List Char → Option (CharClass × Bool × List Char)
  | ':' :: text =>
    let (negated, text) :=
      match text with
      | '^' :: rest => (true, rest)
      | text => (false, text)
    match text.dropWhile (· != ':') with
    | ':' :: ']' :: rest =>
      (asciiClass? (text.takeWhile (· != ':'))).map fun chars => (chars, negated, rest)
    | _ => none
  | _ => none

/-- The class with its case folded and, where asked, negated. -/
def closeSet (mode : Mode) (negated : Bool) (chars : CharClass) : Except PatternError CharClass :=
  if !negated then .ok (foldCase mode chars)
  else if mode.unicode then .ok (.other (foldCase mode chars))
  else .error .splitsCharacters

/-- The union of the listed items, which are given last first. -/
def unite : List SetNode → SetNode
  | [] => ⟨.never, 0⟩
  | [item] => item
  | items => ⟨.union (items.reverse.map (·.chars)), (items.map (·.depth)).foldl max 0 + 1⟩

/-- The list so far, combined with the lists before the last operator. -/
def combine (mode : Mode) (pending : Option (SetOp × SetNode)) (items : List SetNode) : SetNode :=
  match pending with
  | none => unite items
  | some (op, left) =>
    let right := unite items
    ⟨op.combine (foldCase mode left.chars) (foldCase mode right.chars),
      max left.depth right.depth + 1⟩

/-- A character or an escape in a class. -/
def readSetAtom (mode : Mode) : List Char → Except PatternError (Atom × List Char)
  | [] => .error .unclosedClass
  | '\\' :: rest => readEscape mode rest
  | c :: rest => .ok (.literal c false, rest)

/-- The class of an item that is no range. -/
def itemClass (mode : Mode) : Atom → Except PatternError CharClass
  | .literal c _ =>
    if mode.unicode || c.toNat < 0x80 then .ok (.single c) else .error .splitsCharacters
  | .named set negated => namedClass mode set negated
  | .property name negated => .ok (propertyClass mode name negated)
  | .look _ => .error .escapeInClass

/-- The character at an end of a range. -/
def rangeEnd (mode : Mode) : Atom → Except PatternError Char
  | .literal c _ =>
    if mode.unicode || c.toNat < 0x80 then .ok c else .error .splitsCharacters
  | _ => .error .rangeEndNotCharacter

/-- A range or a single item. A hyphen before the closing bracket or before another hyphen makes no
range. -/
def readItem (mode : Mode) (text : List Char) : Except PatternError (CharClass × List Char) := do
  let (first, rest) ← readSetAtom mode text
  match skip mode rest with
  | [] => .error .unclosedClass
  | '-' :: after =>
    match skip mode after with
    | [] => .error .unclosedClass
    | ']' :: _ => return (← itemClass mode first, '-' :: after)
    | '-' :: _ => return (← itemClass mode first, '-' :: after)
    | after =>
      let (last, rest) ← readSetAtom mode after
      let first ← rangeEnd mode first
      let last ← rangeEnd mode last
      if first ≤ last then
        return (.range first last, rest)
      else
        .error .rangeReversed
  | rest => return (← itemClass mode first, rest)

/-- The hyphens that stand first in a class. -/
def readLeadingHyphens (mode : Mode) :
    Nat → List SetNode → List Char → List SetNode × List Char
  | fuel + 1, items, '-' :: rest =>
    readLeadingHyphens mode fuel (⟨.single '-', 0⟩ :: items) (skip mode rest)
  | _, items, text => (items, text)

/-- The start of a class after its opening bracket: whether it is negated, the items that are
literal because they stand first, and the text after them. -/
def openSet (mode : Mode) (text : List Char) : Bool × List SetNode × List Char :=
  let text := skip mode text
  let (negated, text) :=
    match text with
    | '^' :: rest => (true, skip mode rest)
    | text => (false, text)
  match readLeadingHyphens mode text.length [] text with
  | ([], ']' :: rest) => (negated, [⟨.single ']', 0⟩], skip mode rest)
  | (items, text) => (negated, items, text)

/-- The rest of a class up to its closing bracket, and the text after it. -/
def readSet : Nat → Mode → Option (SetOp × SetNode) → List SetNode → List Char →
    Except PatternError (SetNode × List Char)
  | 0, _, _, _, _ => .error .nestedTooDeeply
  | fuel + 1, mode, pending, items, text =>
    match skip mode text with
    | [] => .error .unclosedClass
    | ']' :: rest => .ok (combine mode pending items, rest)
    | '[' :: rest =>
      match readAsciiClass? rest with
      | some (chars, negated, rest) => do
        let chars ← closeSet mode negated chars
        readSet fuel mode pending (⟨chars, 0⟩ :: items) rest
      | none => do
        let (negated, leading, rest) := openSet mode rest
        let (inner, rest) ← readSet fuel mode none leading rest
        let chars ← closeSet mode negated inner.chars
        readSet fuel mode pending (⟨chars, inner.depth + 1⟩ :: items) rest
    | '&' :: '&' :: rest =>
      readSet fuel mode (some (.intersection, combine mode pending items)) [] rest
    | '-' :: '-' :: rest =>
      readSet fuel mode (some (.difference, combine mode pending items)) [] rest
    | '~' :: '~' :: rest =>
      readSet fuel mode (some (.symmetricDifference, combine mode pending items)) [] rest
    | text => do
      let (chars, rest) ← readItem mode text
      readSet fuel mode pending (⟨chars, 0⟩ :: items) rest

/-- A bracketed class after its opening bracket, and the text after its closing one. -/
def readBracket (mode : Mode) (text : List Char) : Except PatternError (SetNode × List Char) := do
  let (negated, leading, rest) := openSet mode text
  let (inner, rest) ← readSet (text.length + 1) mode none leading rest
  let chars ← closeSet mode negated inner.chars
  return (⟨chars, inner.depth + 1⟩, rest)

end ScreenedSuite.PatternText
