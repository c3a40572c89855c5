import ScreenedSuite.Choice
import ScreenedSuite.Pattern.Search
import ScreenedSuite.Pattern.Text.Reader

/-! # Screening rules

A rule names a pattern, says at which tier it begins to apply and why it flags. Its text is checked
to be a pattern where the rule is written down; it names no property of characters, so no table of
properties is needed for that.
-/

namespace ScreenedSuite

/-- The two kinds of screened values. -/
inductive ListKind where
  /-- Shell commands. -/
  | command
  /-- File system paths. -/
  | path
deriving DecidableEq, Repr

namespace ListKind

/-- The name of the list that screens a kind. -/
def listName : ListKind → String
  | command => "dangerous_commands"
  | path => "sensitive_paths"

end ListKind

/-- A built-in rule. -/
structure Rule where
  id : String
  /-- The least restrictive level at which the rule applies. -/
  tier : Level
  pattern : String
  reason : String
  /-- The text is a pattern. -/
  readable : (Pattern.ofText? .empty pattern).toOption.isSome = true := by decide +kernel

namespace Rule

/-- The pattern that the text of a rule writes. -/
def compiled (rule : Rule) : Pattern :=
  (Pattern.ofText? .empty rule.pattern).toOption.get rule.readable

end Rule

end ScreenedSuite
