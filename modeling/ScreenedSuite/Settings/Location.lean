import ScreenedSuite.Host
import ScreenedSuite.Settings.Reader
import ScreenedSuite.Storage.Path

/-! # Where settings are found

Settings are read from a given file, or else from the user's and then the system's file. A file of
the latter kind that cannot be used is passed over with a warning. Without any file the defaults
apply.
-/

namespace ScreenedSuite.Settings

variable {m : Type → Type} {log staged : Type} [Monad m]

/-- The user's home directory, if it is known: the one that the environment names, or else the one
of the user's account. An empty name counts as none. -/
def homeDirectory? (host : Host m log staged) : m (Option String) := do
  match (← host.environment? "HOME").filter (!·.isEmpty) with
  | some home => return some home
  | none => return (← host.accountHome?).filter (!·.isEmpty)

/-- The directory of the user's settings, if it is known. -/
def settingsDirectory? (host : Host m log staged) : m (Option String) := do
  match ← host.environment? "XDG_CONFIG_HOME" with
  | some directory =>
    if Path.isAbsolute directory then return some directory else inHome
  | none => inHome
where
  /-- The usual place below the home directory. -/
  inHome : m (Option String) := do
    let home ← homeDirectory? host
    return home.map (Path.join · ".config")

/-- The files in which settings are looked for, in order. -/
def standardFiles (host : Host m log staged) : m (List String) := do
  let directory ← settingsDirectory? host
  return (directory.map (Path.join · "json2robot/config.toml")).toList
    ++ ["/etc/json2robot/config.toml"]

/-- The settings in a file. -/
def loadFile (host : Host m log staged) (path : String) : m (Except SettingsError Settings) := do
  match ← host.readFile path with
  | .error error => return .error (.unreadable path error)
  | .ok content =>
    match String.fromUTF8? content with
    | none => return .error (.unreadable path .invalidText)
    | some text => return ofText? text

/-- The event for settings that are used. -/
def loadedEvent (path : String) : Event where
  severity := .debug
  message := "loaded configuration"
  fields := [("path", .text path)]

/-- The event for settings that are passed over. -/
def ignoredEvent (path : String) (error : SettingsError) : Event where
  severity := .warn
  message := "ignoring config file"
  fields := [("path", .text path), ("error", .failure (.configuration error))]

/-- The settings in the first of some files that can be used. -/
def loadFirst (host : Host m log staged) (tell : Event → m Unit) : List String → m Settings
  | [] => return {}
  | path :: rest => do
    if ← host.pathExists path then
      match ← loadFile host path with
      | .ok settings =>
        tell (loadedEvent path)
        return settings
      | .error error =>
        tell (ignoredEvent path error)
        loadFirst host tell rest
    else
      loadFirst host tell rest

/-- The settings in the standard files. -/
def loadStandard (host : Host m log staged) (tell : Event → m Unit) : m Settings := do
  loadFirst host tell (← standardFiles host)

/-- A path whose leading `~/` stands for the home directory, if that is known. -/
def expandHome (home : Option String) (path : String) : String :=
  match home, path.toList with
  | some home, '~' :: '/' :: rest => Path.join home (String.ofList rest)
  | _, _ => path

/-- The file that conversions are recorded in, if they are recorded. -/
def auditFile? (home : Option String) (settings : Settings) : Option String :=
  if settings.auditLog then settings.auditPath.map (expandHome home) else none

end ScreenedSuite.Settings
