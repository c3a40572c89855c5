import ScreenedSuite.Choice
import ScreenedSuite.Finding.Report
import ScreenedSuite.Host
import ScreenedSuite.Storage.Path

/-! # Audit logs

An audit log has one line of JSON for every conversion. It tells the outcome, the source and the
findings, with previews in place of values. A log that cannot be opened stays off.
-/

namespace ScreenedSuite

/-- The outcome of a conversion. -/
inductive AuditOutcome where
  | converted (findings : List Finding)
  | rejected (failure : Failure)

/-- A record of one conversion. -/
structure AuditEntry where
  source : String
  level : Level
  outcome : AuditOutcome

/-- A finding in an audit log, without its pattern. -/
def Finding.auditReport (finding : Finding) : Json :=
  .object (
    ("kind", .string finding.kind.name)
      :: optionalMember "rule_id" (finding.ruleId.map .string)
      ++ [("action", .string finding.treatment.name),
        ("location", finding.location.report),
        ("preview", .string finding.preview)])

namespace AuditOutcome

/-- The name of an outcome. -/
def name : AuditOutcome → String
  | converted _ => "CONVERTED"
  | rejected _ => "REJECTED"

/-- The findings of a conversion that succeeded. -/
def findings : AuditOutcome → List Finding
  | converted findings => findings
  | rejected _ => []

/-- The failure of a conversion that failed. -/
def failure? : AuditOutcome → Option Failure
  | converted _ => none
  | rejected failure => some failure

end AuditOutcome

namespace AuditEntry

/-- The JSON value of an entry made at a time. -/
def json (time : String) (entry : AuditEntry) : Json :=
  .object (
    [("timestamp", .string time),
      ("outcome", .string entry.outcome.name),
      ("source", .string entry.source),
      ("security_level", .string entry.level.name),
      ("findings", .array (entry.outcome.findings.map Finding.auditReport))]
      ++ optionalMember "error" (entry.outcome.failure?.map fun failure => .string failure.message))

/-- The line of an entry made at a time. -/
def line (time : String) (entry : AuditEntry) : String :=
  (entry.json time).compact ++ "\n"

end AuditEntry

/-- An audit log, open or off. -/
structure AuditLog (log : Type) where
  file : Option log

namespace AuditLog

variable {m : Type → Type} {log staged : Type} [Monad m]

/-- The log that records nothing. -/
def off : AuditLog log :=
  ⟨none⟩

/-- Whether the log records anything. -/
def isEnabled (audit : AuditLog log) : Bool :=
  audit.file.isSome

/-- Make directories, the innermost first, as far as they do not exist. -/
def makeDirectories (host : Host m log staged) : List String → m (Except StorageError Unit)
  | [] => return .ok ()
  | path :: above => do
    match ← host.makeDirectory path with
    | .ok () => return .ok ()
    | .error .notFound =>
      match ← makeDirectories host above with
      | .error error => return .error error
      | .ok () => settle host path (← host.makeDirectory path)
    | .error error => settle host path (.error error)
where
  /-- A directory that exists is as good as one that was made. -/
  settle (host : Host m log staged) (path : String) :
      Except StorageError Unit → m (Except StorageError Unit)
    | .ok () => return .ok ()
    | .error error => do
      if ← host.isDirectory path then return .ok () else return .error error

/-- A warning about a path. -/
def pathWarning (message path : String) (error : StorageError) : Event where
  severity := .warn
  message := message
  fields := [("path", .text path), ("error", .text error.message)]

/-- Open the log at a path, making its directory if need be. -/
def openAt (host : Host m log staged) (tell : Event → m Unit) (path : String) :
    m (AuditLog log) := do
  match Path.parent? path with
  | none => pure ()
  | some parent =>
    match ← makeDirectories host (Path.ancestors parent) with
    | .ok () => pure ()
    | .error error => tell (pathWarning "cannot create audit directory" parent error)
  match ← host.openLog path with
  | .ok file => return ⟨some file⟩
  | .error error =>
    tell (pathWarning "audit logging disabled" path error)
    return off

/-- Open the log at a path, if there is one. -/
def openAt? (host : Host m log staged) (tell : Event → m Unit) : Option String → m (AuditLog log)
  | none => return off
  | some path => openAt host tell path

/-- Record a conversion. -/
def record (host : Host m log staged) (audit : AuditLog log) (entry : AuditEntry) :
    m (Except StorageError Unit) := do
  match audit.file with
  | none => return .ok ()
  | some file => host.appendLog file (entry.line (← host.now))

/-- The warning for a record that could not be written. -/
def failedEvent (error : StorageError) : Event where
  severity := .warn
  message := "failed to write audit log"
  fields := [("error", .text error.message)]

end AuditLog

end ScreenedSuite
