import ScreenedSuite.Pattern.Look

/-! # Patterns

A pattern describes pieces of a text. Its meaning is the relation `Pattern.Matches`, which says that
a pattern matches a piece between what comes before it and what comes after it.
-/

namespace ScreenedSuite

/-- A pattern for a piece of a text. -/
inductive Pattern where
  /-- The empty piece. -/
  | empty
  /-- One character of a class. -/
  | char (chars : CharClass)
  /-- The empty piece, where a condition holds. -/
  | look (condition : Look)
  /-- One pattern after another. -/
  | seq (first second : Pattern)
  /-- Either of two patterns. -/
  | alt (left right : Pattern)
  /-- A pattern repeated `least` times and then up to `more` times, or without bound. -/
  | rep (inner : Pattern) (least : Nat) (more : Option Nat)
deriving DecidableEq, Repr

namespace Pattern

/-- One pattern after another, dropping an empty first one. -/
def followedBy : Pattern → Pattern → Pattern
  | empty, second => second
  | first, second => seq first second

/-- Several patterns in sequence. -/
def sequence : List Pattern → Pattern
  | [] => empty
  | [single] => single
  | first :: rest => seq first (sequence rest)

/-- The choice among several patterns, none of them being no choice at all. -/
def choice : List Pattern → Pattern
  | [] => char .never
  | [single] => single
  | first :: rest => alt first (choice rest)

/-- The pattern with the sets of the properties in its classes, if all of them are known. -/
def lookUp (table : PropertyTable) : Pattern → Option Pattern
  | empty => some empty
  | char chars => (chars.lookUp table).map char
  | look condition => some (look condition)
  | seq first second => do return seq (← first.lookUp table) (← second.lookUp table)
  | alt left right => do return alt (← left.lookUp table) (← right.lookUp table)
  | rep inner least more => (inner.lookUp table).map (rep · least more)

/-- `Matches pattern before piece after` says that the pattern matches the piece that stands between
`before` and `after`. -/
inductive Matches : Pattern → List Char → List Char → List Char → Prop where
  | empty {before after : List Char} : Matches .empty before [] after
  | char {chars : CharClass} {before after : List Char} {c : Char}
      (held : chars.contains c = true) : Matches (.char chars) before [c] after
  | look {condition : Look} {before after : List Char}
      (holds : condition.holds before.getLast? after.head? = true) :
      Matches (.look condition) before [] after
  | seq {first second : Pattern} {before left right after : List Char}
      (first_matches : Matches first before left (right ++ after))
      (second_matches : Matches second (before ++ left) right after) :
      Matches (.seq first second) before (left ++ right) after
  | alt_left {left right : Pattern} {before piece after : List Char}
      (left_matches : Matches left before piece after) :
      Matches (.alt left right) before piece after
  | alt_right {left right : Pattern} {before piece after : List Char}
      (right_matches : Matches right before piece after) :
      Matches (.alt left right) before piece after
  | rep_stop {inner : Pattern} {more : Option Nat} {before after : List Char} :
      Matches (.rep inner 0 more) before [] after
  | rep_required {inner : Pattern} {least : Nat} {more : Option Nat}
      {before left right after : List Char}
      (inner_matches : Matches inner before left (right ++ after))
      (rest_matches : Matches (.rep inner least more) (before ++ left) right after) :
      Matches (.rep inner (least + 1) more) before (left ++ right) after
  | rep_bounded {inner : Pattern} {more : Nat} {before left right after : List Char}
      (inner_matches : Matches inner before left (right ++ after))
      (rest_matches : Matches (.rep inner 0 (some more)) (before ++ left) right after) :
      Matches (.rep inner 0 (some (more + 1))) before (left ++ right) after
  | rep_unbounded {inner : Pattern} {before left right after : List Char}
      (inner_matches : Matches inner before left (right ++ after))
      (rest_matches : Matches (.rep inner 0 none) (before ++ left) right after) :
      Matches (.rep inner 0 none) before (left ++ right) after

/-- A pattern occurs in a text when it matches some piece of it. -/
def Occurs (pattern : Pattern) (text : List Char) : Prop :=
  ∃ before piece after, text = before ++ piece ++ after ∧ Matches pattern before piece after

end Pattern

end ScreenedSuite
