import ScreenedSuite.Pattern.Basic

/-! # The weight of a pattern

A pattern with large repetition counts stands for a large machine. The weight estimates that machine
in bytes: a state costs 32, a transition on a range 8, a branch 4, and a counted repetition costs as
much as its copies. Patterns over ten mebibytes are refused.
-/

namespace ScreenedSuite

namespace CharClass

/-- The estimated bytes of the states that recognise one character of the class in its encoding. -/
def weight : CharClass → Nat
  | range first last =>
    if first == last && last.toNat < 0x80 then 32
    else if last.toNat < 0x80 then 72
    else 236
  | digit => 5116
  | space => 680
  | word => 49836
  | property _ => 32
  | listed set => 64 + 33 * set.boundaries.length
  | never => 32
  | either left right => left.weight + right.weight
  | both left right => max left.weight right.weight
  | without left right => max left.weight right.weight
  | oneOf left right => left.weight + right.weight
  | other inner => 964 + inner.weight
  | anyCase inner => inner.weight + 48
  | anyAsciiCase inner => inner.weight + 48

end CharClass

namespace Pattern

/-- The estimated bytes of the machine of a pattern. -/
def weight : Pattern → Nat
  | empty => 32
  | char chars => chars.weight
  | look _ => 32
  | seq first second => first.weight + second.weight
  | alt left right => left.weight + right.weight + 40
  | rep inner least none => max least 1 * inner.weight + 40
  | rep inner least (some more) => least * inner.weight + more * (inner.weight + 40) + 32

/-- The weight that no pattern, and no list of patterns together, may exceed. -/
def weightLimit : Nat :=
  10 * 1024 * 1024

end Pattern

end ScreenedSuite
