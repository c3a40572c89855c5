import ScreenedSuite.Catalog.Basic

/-! # Classification

A value is judged by the first pattern of its list that occurs in it. In a path a backslash
separates like a slash.
-/

namespace ScreenedSuite

/-- The judgement on a value, with the entry that decided. -/
inductive Classification where
  | safe
  | dangerous (entry : Entry)
  | sensitive (entry : Entry)
deriving DecidableEq, Repr

namespace Classification

/-- Whether nothing was found. -/
def isSafe : Classification → Bool
  | safe => true
  | _ => false

/-- The entry that decided. -/
def entry? : Classification → Option Entry
  | safe => none
  | dangerous entry => some entry
  | sensitive entry => some entry

/-- The name of a judgement. -/
def name : Classification → String
  | safe => "safe"
  | dangerous _ => "dangerous"
  | sensitive _ => "sensitive"

/-- What an entry of a list makes of a value. -/
def flagged : ListKind → Entry → Classification
  | .command => dangerous
  | .path => sensitive

end Classification

/-- A path with slashes for separators. -/
def withSlashes (path : String) : String :=
  String.ofList (path.toList.map fun c => if c == '\\' then '/' else c)

/-- The text of a value that the patterns for its kind are searched in. -/
def ListKind.searched : ListKind → String → String
  | .command, value => value
  | .path, value => withSlashes value

namespace Catalog

/-- The entry that flags a value. -/
def flag? (catalog : Catalog) (level : Level) (kind : ListKind) (value : String) : Option Entry :=
  ((catalog.forLevel level).list kind).firstMatch? (kind.searched value)

/-- The judgement on a value. -/
def classify (catalog : Catalog) (level : Level) (kind : ListKind) (value : String) :
    Classification :=
  match catalog.flag? level kind value with
  | none => .safe
  | some entry => .flagged kind entry

end Catalog

end ScreenedSuite
