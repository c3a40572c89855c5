import ScreenedSuite.Settings.Error
import ScreenedSuite.Toml.Document

/-! # Reading settings

A settings document holds up to three tables. Their entries are taken in the order of the
document, and the first one that does not fit is reported. What is absent keeps its default.
Unknown entries are passed over, except among the pattern lists. A list may stand for a table: its
items are the fields in their order.
-/

namespace ScreenedSuite

namespace Settings

/-- A field with its value, or an error. -/
abbrev Decoded (α : Type) :=
  Except DecodeError α

/-- The error for a value of the wrong type. -/
def wrongType {α : Type} (found : Toml) (expected : String) : Decoded α :=
  .error (.invalidType found.description expected)

/-- A truth value. -/
def decodeBoolean : Toml → Decoded Bool
  | .boolean value => .ok value
  | found => wrongType found "a boolean"

/-- A text. -/
def decodeString : Toml → Decoded String
  | .string value => .ok value
  | found => wrongType found "a string"

/-- Several texts. -/
def decodeStrings : Toml → Decoded (List String)
  | .array items => items.mapM decodeString
  | found => wrongType found "a sequence"

/-- A size. -/
def decodeSize : Toml → Decoded Nat
  | .integer (.ofNat value) => .ok value
  | .integer value => .error (.invalidValue value "usize")
  | found => wrongType found "usize"

/-- One of several named choices. Instead of the name there may be a table with the name for its
only key and an empty value. -/
def decodeChoice {α : Type} (choices : List α) (name : α → String) (found : Toml) : Decoded α :=
  let choose (typed : String) : Decoded α :=
    match choices.find? (name · == typed) with
    | some choice => .ok choice
    | none => .error (.unknownVariant typed (choices.map name))
  match found with
  | .string typed => choose typed
  | .table [(typed, inner)] => do
    let choice ← choose typed
    match inner with
    | .table [] => return choice
    | .array [] => return choice
    | _ => .error .notAChoice
  | _ => .error .notAChoice

/-- The entry under which a date or time shows where a table is expected. -/
def dateField : String :=
  "$__toml_private_datetime"

/-- The fields that a value gives to a structure with the given name and fields. -/
def decodeFields (structureName : String) (fields : List String) :
    Toml → Decoded (List (String × Toml))
  | .table entries => .ok entries
  | .array items => .ok (fields.zip items)
  | .dateTime => .ok [(dateField, .dateTime)]
  | found => wrongType found s!"struct {structureName}"

/-- The fields of the general table. -/
def generalFields : List String :=
  ["security_level", "unmapped_action_policy", "audit_log", "audit_path"]

/-- The settings with a field of the general table taken in. -/
def setGeneral (settings : Settings) (field : String) (value : Toml) : Decoded Settings :=
  match field with
  | "security_level" => do
    return { settings with level := ← decodeChoice Level.all Level.name value }
  | "unmapped_action_policy" => do
    return { settings with unmapped := ← decodeChoice UnmappedPolicy.all UnmappedPolicy.name value }
  | "audit_log" => do return { settings with auditLog := ← decodeBoolean value }
  | "audit_path" => do return { settings with auditPath := some (← decodeString value) }
  | _ => .ok settings

/-- The fields of the replacements at one level. -/
def overrideFields : List String :=
  [ListKind.command.listName, ListKind.path.listName]

/-- The replacements with a list taken in. -/
def setList (override : ListOverride) (field : String) (value : Toml) : Decoded ListOverride :=
  match field with
  | "dangerous_commands" => do return { override with commands := some (← decodeStrings value) }
  | "sensitive_paths" => do return { override with paths := some (← decodeStrings value) }
  | field => .error (.unknownField field overrideFields)

/-- The replacements with those of one level taken in. -/
def setOverride (overrides : Overrides) (field : String) (value : Toml) : Decoded Overrides :=
  match Level.ofName? field with
  | some level => do
    let fields ← decodeFields "PatternOverride" overrideFields value
    let override ← fields.foldlM (fun override field => setList override field.1 field.2) {}
    return overrides.set level override
  | none => .error (.unknownField field (Level.all.map Level.name))

/-- The settings with a field of the suite's table taken in. -/
def setLayout (settings : Settings) (field : String) (value : Toml) : Decoded Settings :=
  match field with
  | "separator_width" => do return { settings with separatorWidth := ← decodeSize value }
  | _ => .ok settings

/-- The settings with a table of the document taken in. -/
def setTable (settings : Settings) (table : String) (value : Toml) : Decoded Settings :=
  match table with
  | "general" => do
    let fields ← decodeFields "GeneralConfig" generalFields value
    fields.foldlM (fun settings field => setGeneral settings field.1 field.2) settings
  | "patterns" => do
    let fields ← decodeFields "PatternOverrides" (Level.all.map Level.name) value
    let overrides ← fields.foldlM (fun overrides field => setOverride overrides field.1 field.2) {}
    return { settings with overrides }
  | "robot" => do
    let fields ← decodeFields "RobotConfig" ["separator_width"] value
    fields.foldlM (fun settings field => setLayout settings field.1 field.2) settings
  | _ => .ok settings

/-- The settings that the entries of a document describe. -/
def decode (entries : List (String × Toml)) : Decoded Settings :=
  entries.foldlM (fun settings entry => setTable settings entry.1 entry.2) {}

/-- The settings, unless their separator is too narrow. -/
def validate (settings : Settings) : Except SettingsError Settings :=
  if settings.separatorWidth < leastSeparatorWidth then
    .error (.narrowSeparator settings.separatorWidth)
  else
    .ok settings

/-- The settings that a document describes. -/
def ofText? (text : String) : Except SettingsError Settings :=
  match Toml.ofText? text with
  | .error cause => .error (.document cause)
  | .ok entries =>
    match decode entries with
    | .error cause => .error (.value cause)
    | .ok settings => settings.validate

/-- The level that a person typed. -/
def typedLevel (typed : String) : Except SettingsError Level :=
  match Level.ofChoice? typed with
  | some level => .ok level
  | none => .error (.unknownLevel (plainChoice typed))

/-- The policy that a person typed. -/
def typedPolicy (typed : String) : Except SettingsError UnmappedPolicy :=
  match UnmappedPolicy.ofChoice? typed with
  | some policy => .ok policy
  | none => .error (.unknownPolicy (plainChoice typed))

/-- The document that describes the default settings. -/
def defaultDocument : String :=
  "\n".intercalate [
    "",
    "[general]",
    "security_level = \"standard\"",
    "unmapped_action_policy = \"reject\"",
    "audit_log = false",
    "audit_path = \"~/.config/json2robot/audit.jsonl\"",
    "",
    "[robot]",
    "separator_width = 4",
    ""]

end Settings

end ScreenedSuite
