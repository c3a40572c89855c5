import ScreenedSuite.Choice
import ScreenedSuite.Rule.Basic

/-! # Settings

What a run can be told: the level, the policy for unmapped actions, the audit log, replacements for
pattern lists, and the width of the separator between cells.
-/

namespace ScreenedSuite

/-- Replacements for the pattern lists of one level. An absent list stays the built-in one. -/
structure ListOverride where
  commands : Option (List String) := none
  paths : Option (List String) := none
deriving DecidableEq, Repr

/-- The replacement for the list of a kind. -/
def ListOverride.list? (override : ListOverride) : ListKind → Option (List String)
  | .command => override.commands
  | .path => override.paths

/-- Replacements for the pattern lists of all levels. -/
structure Overrides where
  permissive : Option ListOverride := none
  standard : Option ListOverride := none
  strict : Option ListOverride := none
deriving DecidableEq, Repr

namespace Overrides

/-- The replacements at a level. -/
def at? (overrides : Overrides) : Level → Option ListOverride
  | .permissive => overrides.permissive
  | .standard => overrides.standard
  | .strict => overrides.strict

/-- The same replacements but for one level. -/
def set (overrides : Overrides) (level : Level) (override : ListOverride) : Overrides :=
  match level with
  | .permissive => { overrides with permissive := some override }
  | .standard => { overrides with standard := some override }
  | .strict => { overrides with strict := some override }

/-- The replacement for a list at a level. -/
def list? (overrides : Overrides) (level : Level) (kind : ListKind) : Option (List String) :=
  (overrides.at? level).bind (·.list? kind)

/-- Whether nothing is replaced at any level. -/
def isEmpty (overrides : Overrides) : Bool :=
  Level.all.all fun level => (overrides.at? level).isNone

end Overrides

/-- The settings of a run. -/
structure Settings where
  level : Level := .standard
  unmapped : UnmappedPolicy := .reject
  /-- Whether conversions are recorded. -/
  auditLog : Bool := false
  /-- The file that conversions are recorded in. -/
  auditPath : Option String := some "~/.config/json2robot/audit.jsonl"
  overrides : Overrides := {}
  separatorWidth : Nat := 4
deriving DecidableEq, Repr

/-- The least width that separates two cells. -/
def leastSeparatorWidth : Nat :=
  2

end ScreenedSuite
