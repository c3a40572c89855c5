import ScreenedSuite.Pattern.CharClass
import ScreenedSuite.Unicode.Script

/-! # Properties by name

A property is found by its name without regard to letter case, to spaces, hyphens and low lines and
to a leading `is`. Known are the general categories, the scripts and the binary properties for
letters, letter case and white space.
-/

namespace ScreenedSuite.PropertyTable

/-- A name without what does not tell it from others. The name `isc` belongs to a property of its
own. -/
def plainName (name : String) : String :=
  let bare (text : List Char) : String :=
    String.ofList (text.filter fun c => c.toNat < 0x80 && c != ' ' && c != '_' && c != '-')
  match name.toList.map Char.toLower with
  | 'i' :: 's' :: rest => if bare rest == "c" then "isc" else bare rest
  | text => bare text

/-- The set of a name among named sets. -/
def setNamed? (sets : List Unicode.NamedSet) (name : String) : Option Unicode.CodeSet :=
  (sets.find? (·.names.contains (plainName name))).map (·.set)

/-- The characters of a general category or of a class of categories. -/
def category? (name : String) : Option Unicode.CodeSet :=
  setNamed? (Unicode.categories ++ Unicode.categoryClasses) name

/-- The characters of a script. -/
def script? (name : String) : Option Unicode.CodeSet :=
  setNamed? Unicode.scripts name

/-- The characters of a property without a value: a binary property, a category or a script. -/
def property? (name : String) : Option Unicode.CodeSet :=
  (setNamed? Unicode.binaryProperties name).or ((category? name).or (script? name))

/-- The properties of the characters of Unicode. -/
def unicode : PropertyTable where
  find?
    | .letter c => property? (String.singleton c)
    | .named name => property? name
    | .valued name value =>
      if ["gc", "generalcategory"].contains (plainName name) then category? value
      else if ["sc", "script"].contains (plainName name) then script? value
      else none

end ScreenedSuite.PropertyTable
