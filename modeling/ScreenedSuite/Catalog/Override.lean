import ScreenedSuite.Catalog.Basic
import ScreenedSuite.Settings.Error

/-! # Replacing pattern lists

A catalog is built from the built-in lists and the replacements for some of them. Every text of a
replacement has to be a pattern, which may name properties of characters, and together they may not
be too heavy. The first text that fails
is reported: levels are taken from the least restrictive one, commands before paths.
-/

namespace ScreenedSuite

namespace PatternList

/-- The entry of a replacement's pattern. -/
def replacementEntry (kind : ListKind) (level : Level) (index : Nat) (pattern : String) :
    Entry where
  id := s!"{level.name}-{kind.listName}-{index}"
  pattern := pattern
  reason := "User-supplied pattern"

/-- The patterns of a replacement from an index on. -/
def replacementFrom (properties : PropertyTable) (kind : ListKind) (level : Level) (index : Nat) :
    List String → Except SettingsError (List ListedPattern)
  | [] => .ok []
  | text :: rest =>
    match Pattern.ofText? properties text with
    | .error cause => .error (.invalidPattern kind level text cause)
    | .ok compiled => do
      let items ← replacementFrom properties kind level (index + 1) rest
      return ⟨replacementEntry kind level index text, compiled⟩ :: items

/-- The weight of all patterns of a list. -/
def weight (list : PatternList) : Nat :=
  (list.items.map (·.compiled.weight)).foldr (· + ·) 0

/-- The list that replaces a built-in one. -/
def replacement (properties : PropertyTable) (kind : ListKind) (level : Level)
    (patterns : List String) : Except SettingsError PatternList := do
  let items ← replacementFrom properties kind level 0 patterns
  if weight ⟨items⟩ ≤ Pattern.weightLimit then return ⟨items⟩ else .error (.heavyList kind level)

/-- The list for a kind of value at a level, given what replaces it. -/
def build (properties : PropertyTable) (kind : ListKind) (level : Level) :
    Option (List String) → Except SettingsError PatternList
  | none => .ok (builtin kind level)
  | some patterns => replacement properties kind level patterns

end PatternList

namespace Catalog

/-- The pattern set of a level under replacements. -/
def buildSet (properties : PropertyTable) (overrides : Overrides) (level : Level) :
    Except SettingsError PatternSet := do
  let commands ← PatternList.build properties .command level (overrides.list? level .command)
  let paths ← PatternList.build properties .path level (overrides.list? level .path)
  return ⟨commands, paths⟩

/-- The catalog under replacements. -/
def build (properties : PropertyTable) (overrides : Overrides) : Except SettingsError Catalog := do
  let permissive ← buildSet properties overrides .permissive
  let standard ← buildSet properties overrides .standard
  let strict ← buildSet properties overrides .strict
  return ⟨permissive, standard, strict⟩

end Catalog

end ScreenedSuite
