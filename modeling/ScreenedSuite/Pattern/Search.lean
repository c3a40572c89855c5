import ScreenedSuite.Pattern.Basic

/-! # Searching a text

The search reads a text from left to right and keeps the patterns that the rest of the text still
has to match, one for every way to have begun so far. A pattern `step`s over a character to its
remainders, and it is `nullable` at a position when it matches the empty piece there. The set of
remainders of a pattern is small, so the search never backtracks.
-/

namespace ScreenedSuite

namespace Pattern

/-- Whether the pattern matches the empty piece between two neighbouring characters. -/
def nullable (before after : Option Char) : Pattern → Bool
  | empty => true
  | char _ => false
  | look condition => condition.holds before after
  | seq first second => first.nullable before after && second.nullable before after
  | alt left right => left.nullable before after || right.nullable before after
  | rep inner least _ => least == 0 || inner.nullable before after

/-- What may follow the copy of `inner` that consumes the next character. Where `inner` also matches
the empty piece, any number of the other required copies may stand before that character. -/
def afterCopy (inner : Pattern) (least : Nat) (more : Option Nat) (skips : Bool) : Option Pattern :=
  match least, more with
  | 0, none => some (rep inner 0 none)
  | 0, some 0 => none
  | 0, some (more + 1) => some (rep inner 0 (some more))
  | least + 1, more =>
    if skips then
      some (rep inner 0 (more.map (least + ·)))
    else
      some (rep inner least more)

/-- The remainders of the pattern after a character, given the character before it. -/
def step (before : Option Char) (c : Char) : Pattern → List Pattern
  | empty => []
  | char chars => if chars.contains c then [empty] else []
  | look _ => []
  | seq first second =>
    let crossing := (first.step before c).map (·.followedBy second)
    if first.nullable before (some c) then
      crossing ++ second.step before c
    else
      crossing
  | alt left right => left.step before c ++ right.step before c
  | rep inner least more =>
    match afterCopy inner least more (inner.nullable before (some c)) with
    | none => []
    | some rest => (inner.step before c).map (·.followedBy rest)

/-- Whether the pattern occurs in the rest of a text, `begun` being the remainders of the
occurrences that began earlier. -/
def occursFrom (pattern : Pattern) (begun : List Pattern) (before : Option Char) :
    List Char → Bool
  | [] => (pattern :: begun).any (·.nullable before none)
  | c :: rest =>
    let active := pattern :: begun
    active.any (·.nullable before (some c))
      || pattern.occursFrom (active.flatMap (·.step before c)).eraseDups (some c) rest

/-- Whether the pattern occurs somewhere in a text. -/
def occursIn (pattern : Pattern) (text : List Char) : Bool :=
  pattern.occursFrom [] none text

end Pattern

end ScreenedSuite
