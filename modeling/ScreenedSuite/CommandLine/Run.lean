import ScreenedSuite.ActionTable.Builtin
import ScreenedSuite.AuditLog
import ScreenedSuite.CommandLine.LogFilter
import ScreenedSuite.CommandLine.Options
import ScreenedSuite.Converter
import ScreenedSuite.ScriptFile
import ScreenedSuite.Settings.Location

/-! # Running a command line

A run loads the settings, makes the converter, opens the audit log, reads the input, converts it,
records the outcome and delivers the script. The first failure ends the run, and nothing is
delivered then.
-/

namespace ScreenedSuite.CommandLine

variable {m : Type → Type} {log staged : Type} [Monad m]

/-- Tell the events that a filter admits. -/
def tellAll (host : Host m log staged) (filter : LogFilter) : List Event → m Unit
  | [] => return ()
  | event :: rest => do
    if filter.admits event then host.tell (.event event)
    tellAll host filter rest

/-- Tell an event that a filter admits. -/
def tellOne (host : Host m log staged) (filter : LogFilter) (event : Event) : m Unit :=
  tellAll host filter [event]

/-- The settings of a run before the options are taken in. -/
def loadSettings (host : Host m log staged) (filter : LogFilter) :
    Option String → m (Except Failure Settings)
  | some path => do
    match ← Settings.loadFile host path with
    | .ok settings => return .ok settings
    | .error error => return .error (.configuration error)
  | none => do return .ok (← Settings.loadStandard host (tellOne host filter))

/-- The settings with the options taken in. -/
def Options.override (options : Options) (settings : Settings) : Settings :=
  { settings with
    level := options.level.getD settings.level
    unmapped := options.unmapped.getD settings.unmapped }

/-- The text of the input, from a file or the standard input. -/
def readInput (host : Host m log staged) (input : Option String) : m (Except Failure String) := do
  let content ←
    match input with
    | some path => if Path.isDash path then host.readInput else host.readFile path
    | none => host.readInput
  match content with
  | .error error => return .error (.storage error)
  | .ok content =>
    match String.fromUTF8? content with
    | none => return .error (.storage .invalidText)
    | some text => return .ok text

/-- Record the outcome of the conversion, warning if that fails. -/
def recordOutcome (host : Host m log staged) (filter : LogFilter) (audit : AuditLog log)
    (entry : AuditEntry) : m Unit := do
  match ← audit.record host entry with
  | .ok () => return ()
  | .error error => tellOne host filter (AuditLog.failedEvent error)

/-- The warning about a finding. -/
def findingWarning (finding : Finding) : Event where
  severity := .warn
  message := finding.summary

/-- Tell what stands behind a failure of the conversion. -/
def explain (host : Host m log staged) (actions : ActionTable) : Failure → m Unit
  | .unsupportedAction _ _ => host.tell (.supportedActions actions.names)
  | _ => return ()

/-- Deliver a script to the output file or the standard output. -/
def deliver (host : Host m log staged) (filter : LogFilter) (text : String) :
    Option String → m (Except Failure Unit)
  | some path => do
    match ← ScriptFile.write host path text with
    | .error error => return .error (.storage error)
    | .ok () =>
      tellOne host filter (ScriptFile.writtenEvent path text)
      return .ok ()
  | none => do
    match ← host.writeOutput text with
    | .error error => return .error (.storage error)
    | .ok () => return .ok ()

/-- Convert the text of the input and deliver the script. -/
def convertAndDeliver (host : Host m log staged) (filter : LogFilter) (options : Options)
    (converter : Converter) (audit : AuditLog log) (text : String) : m (Except Failure Unit) := do
  let source := options.input.getD "-"
  tellAll host filter (converter.events text)
  match converter.convert text with
  | .error failure =>
    recordOutcome host filter audit ⟨source, converter.level, .rejected failure⟩
    explain host converter.screening.actions failure
    return .error failure
  | .ok script =>
    recordOutcome host filter audit ⟨source, converter.level, .converted script.findings⟩
    tellAll host filter (script.findings.map findingWarning)
    if options.findingsJson then host.tell (.report (Finding.reportText script.findings))
    deliver host filter script.text options.output

/-- Run with the options, up to the first failure. -/
def perform (host : Host m log staged) (properties : PropertyTable) (filter : LogFilter)
    (options : Options) : m (Except Failure Unit) := do
  match ← loadSettings host filter options.settings with
  | .error failure => return .error failure
  | .ok loaded =>
    let settings := options.override loaded
    tellAll host filter (Converter.setupEvents properties settings)
    match Converter.ofSettings properties settings ActionTable.builtin with
    | .error failure => return .error failure
    | .ok converter =>
      let home ← Settings.homeDirectory? host
      let audit ← AuditLog.openAt? host (tellOne host filter) (settings.auditFile? home)
      match ← readInput host options.input with
      | .error failure => return .error failure
      | .ok text => convertAndDeliver host filter options converter audit text

/-- The line that tells the version. -/
def versionLine : String :=
  "json2robot 0.1.0\n"

/-- The lines that tell how the program is used. -/
def helpText : String :=
  "\n".intercalate [
    "Convert JSON test-case descriptions into Robot Framework scripts with a security policy",
    "",
    "Usage: json2robot [OPTIONS] [INPUT]",
    "",
    "Arguments:",
    "  [INPUT]  JSON test case file (`-` or omitted reads stdin)",
    "",
    "Options:",
    "  -o, --output <OUTPUT>",
    "          Write the generated suite here instead of stdout",
    "  -l, --security-level <SECURITY_LEVEL>",
    "          Security level: strict, standard, permissive",
    "      --unmapped-actions <UNMAPPED_ACTIONS>",
    "          Handling of unknown actions: reject, passthrough",
    "  -c, --config <CONFIG>",
    "          Path to config file",
    "      --findings-json",
    "          Print security findings as JSON on stderr",
    "  -v, --verbose",
    "          Enable debug logging",
    "  -h, --help",
    "          Print help",
    "  -V, --version",
    "          Print version",
    ""]

/-- The line that tells of a command line that does not follow the rules. -/
def usageLine : String :=
  "error: the command line was not understood; for more information, try '--help'."

/-- Run with the options and return the exit code. -/
def run (host : Host m log staged) (properties : PropertyTable) (options : Options) : m Nat := do
  let requested ← host.environment? "RUST_LOG"
  let filter := LogFilter.choose requested options.verbose
  match ← perform host properties filter options with
  | .ok () => return 0
  | .error failure =>
    host.tell (.failed failure)
    return failure.exitCode

end ScreenedSuite.CommandLine
