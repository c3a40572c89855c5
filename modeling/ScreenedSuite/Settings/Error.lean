import ScreenedSuite.Pattern.Text.Error
import ScreenedSuite.Settings.Basic
import ScreenedSuite.Storage.Error
import ScreenedSuite.Toml.Basic
import ScreenedSuite.Toml.Error

/-! # Faults of settings

A value in a settings document may be of the wrong type or out of range; a field or a choice may be
unknown. Beyond that, a choice typed by a person, a separator width or a pattern may be refused.
-/

namespace ScreenedSuite

/-- Names in quotation marks, the last of several after an "or". -/
def oneOf : List String → String
  | [] => ""
  | [only] => "`" ++ only ++ "`"
  | [first, second] => "`" ++ first ++ "` or `" ++ second ++ "`"
  | names => "one of " ++ ", ".intercalate (names.map fun name => "`" ++ name ++ "`")

/-- What kind of value a message says it found. -/
def Toml.description : Toml → String
  | string value => s!"string {Text.quoted value}"
  | integer value => "integer `" ++ toString value ++ "`"
  | float value => "floating point `" ++ value.text ++ "`"
  | boolean true => "boolean `true`"
  | boolean false => "boolean `false`"
  | dateTime => "map"
  | array _ => "sequence"
  | table _ => "map"

/-- Why a document does not describe settings. -/
inductive DecodeError where
  /-- A choice among names is none of them. -/
  | unknownVariant (found : String) (expected : List String)
  /-- A table holds a field that it does not know. -/
  | unknownField (found : String) (expected : List String)
  /-- A value, given by its description, is of the wrong type. -/
  | invalidType (found expected : String)
  /-- A number is out of range. -/
  | invalidValue (found : Int) (expected : String)
  /-- A choice is written as something other than a name. -/
  | notAChoice
deriving DecidableEq, Repr

/-- The wording of an error. -/
def DecodeError.message : DecodeError → String
  | unknownVariant found expected =>
    "unknown variant `" ++ found ++ "`, expected " ++ oneOf expected
  | unknownField found expected => "unknown field `" ++ found ++ "`, expected " ++ oneOf expected
  | invalidType found expected => s!"invalid type: {found}, expected {expected}"
  | invalidValue found expected =>
    "invalid value: integer `" ++ toString found ++ "`, expected " ++ expected
  | notAChoice => "wanted string or table"

/-- Why settings are refused. -/
inductive SettingsError where
  /-- A person typed a level that does not exist. -/
  | unknownLevel (typed : String)
  /-- A person typed a policy that does not exist. -/
  | unknownPolicy (typed : String)
  /-- The document cannot be read. -/
  | unreadable (path : String) (cause : StorageError)
  /-- The document is not TOML. -/
  | document (cause : Toml.DocumentError)
  /-- The document does not describe settings. -/
  | value (cause : DecodeError)
  /-- The separator between cells is too narrow. -/
  | narrowSeparator (width : Nat)
  /-- A replacement for a list holds a text that is no pattern. -/
  | invalidPattern (kind : ListKind) (level : Level) (pattern : String) (cause : PatternError)
  /-- The patterns of a replacement are too heavy together. -/
  | heavyList (kind : ListKind) (level : Level)
  /-- A fault known only by its description. -/
  | described (text : String)
deriving DecidableEq, Repr

namespace SettingsError

/-- What an error is about, without the explanation of its cause. -/
def subject : SettingsError → String
  | unknownLevel typed =>
    "unknown security level `" ++ typed ++ "` (expected strict, standard or permissive)"
  | unknownPolicy typed =>
    "unknown unmapped action policy `" ++ typed ++ "` (expected reject or passthrough)"
  | unreadable path _ => s!"cannot read {path}"
  | document _ => "invalid config"
  | value _ => "invalid config"
  | narrowSeparator width =>
    s!"robot.separator_width must be at least {leastSeparatorWidth}, got {width}"
  | invalidPattern kind level pattern _ =>
    s!"invalid {kind.listName} override for {level.name} level: " ++ "`" ++ pattern ++ "`"
  | heavyList kind level => s!"cannot compile {kind.listName} for {level.name} level"
  | described text => text

/-- The explanation of the cause of an error, where it has one. -/
def explanation? : SettingsError → Option String
  | unreadable _ cause => some cause.message
  | document cause => some cause.message
  | value cause => some cause.message
  | invalidPattern _ _ _ cause => some cause.message
  | heavyList _ _ => some PatternError.tooLarge.message
  | _ => none

/-- The wording of an error. -/
def message (error : SettingsError) : String :=
  match error.explanation? with
  | some explanation => s!"{error.subject}: {explanation}"
  | none => error.subject

end SettingsError

end ScreenedSuite
