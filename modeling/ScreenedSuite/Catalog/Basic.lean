import ScreenedSuite.Rule.Commands
import ScreenedSuite.Rule.Paths

/-! # Catalogs of patterns

A pattern list is ordered by priority. A catalog holds, for every level, the list that screens
commands and the list that screens paths. The built-in catalog uses at each level the rules of its
own tier and of the tiers below.
-/

namespace ScreenedSuite

/-- What is known about a pattern of a list. -/
structure Entry where
  id : String
  pattern : String
  reason : String
deriving DecidableEq, Repr

/-- An entry with the pattern that its text writes. -/
structure ListedPattern where
  entry : Entry
  compiled : Pattern

/-- Patterns in order of priority. -/
structure PatternList where
  items : List ListedPattern

namespace PatternList

/-- The entries of a list. -/
def entries (list : PatternList) : List Entry :=
  list.items.map (·.entry)

/-- The entry of the first pattern that occurs in a value. -/
def firstMatch? (list : PatternList) (value : String) : Option Entry :=
  (list.items.find? (·.compiled.occursIn value.toList)).map (·.entry)

end PatternList

/-- The built-in rules for a kind of value, in order of priority. -/
def Rule.all : ListKind → List Rule
  | .command => dangerousCommands
  | .path => sensitivePaths

/-- The built-in rules in use at a level. -/
def Rule.active (kind : ListKind) (level : Level) : List Rule :=
  (all kind).filter fun rule => level.includes rule.tier

/-- A rule as a listed pattern. -/
def Rule.listed (rule : Rule) : ListedPattern :=
  ⟨⟨rule.id, rule.pattern, rule.reason⟩, rule.compiled⟩

/-- The built-in list for a kind of value at a level. -/
def PatternList.builtin (kind : ListKind) (level : Level) : PatternList :=
  ⟨(Rule.active kind level).map Rule.listed⟩

/-- The two lists in use at a level. -/
structure PatternSet where
  commands : PatternList
  paths : PatternList

/-- The list for a kind of value. -/
def PatternSet.list (set : PatternSet) : ListKind → PatternList
  | .command => set.commands
  | .path => set.paths

/-- The pattern sets of all levels. -/
structure Catalog where
  permissive : PatternSet
  standard : PatternSet
  strict : PatternSet

namespace Catalog

/-- The pattern set of a level. -/
def forLevel (catalog : Catalog) : Level → PatternSet
  | .permissive => catalog.permissive
  | .standard => catalog.standard
  | .strict => catalog.strict

/-- The built-in pattern set of a level. -/
def builtinSet (level : Level) : PatternSet :=
  ⟨.builtin .command level, .builtin .path level⟩

/-- The built-in catalog. -/
def builtin : Catalog :=
  ⟨builtinSet .permissive, builtinSet .standard, builtinSet .strict⟩

end Catalog

end ScreenedSuite
