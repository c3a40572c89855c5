import ScreenedSuite.Event
import ScreenedSuite.Screening.Basic

/-! # Events of a conversion

A conversion tells of every step it begins and of everything it flags, up to the point where it
fails.
-/

namespace ScreenedSuite

/-- The name of a kind of value in events. -/
def ListKind.eventName : ListKind → String
  | .command => "Command"
  | .path => "Path"

namespace Screening

/-- The event for a value that a pattern occurs in. -/
def matchedEvent (level : Level) (kind : ListKind) (entry : Entry) : Event where
  severity := .debug
  message := "value matched pattern"
  fields := [
    ("level", .text level.name), ("rule", .text entry.id), ("kind", .text kind.eventName)]

/-- The event for a dangerous command that is refused. -/
def refusedEvent (location : Location) (entry : Entry) : Event where
  severity := .warn
  message := "rejecting dangerous command"
  fields := [("location", .text location.text), ("rule", .text entry.id)]

/-- The event for a finding. -/
def findingEvent (finding : Finding) : Event where
  severity := .debug
  message := finding.summary

/-- The events of screening an argument. -/
def argumentEvents (screening : Screening) (role : Role) (value : String) (location : Location) :
    List Event :=
  match role.screenedBy with
  | none => []
  | some kind =>
    match screening.catalog.flag? screening.level kind value with
    | none => []
    | some entry =>
      matchedEvent screening.level kind entry ::
        match screening.screen role value location with
        | .ok (_, finding) => finding.toList.map findingEvent
        | .error _ => [refusedEvent location entry]

/-- The events of screening the arguments of a step from an index on. -/
def argumentEventsFrom (screening : Screening) (template : Template) (step : Nat) (index : Nat) :
    List String → List Event
  | [] => []
  | value :: rest =>
    let role := (template.roleAt index).getD .text
    let location : Location := ⟨step, some index⟩
    screening.argumentEvents role value location ++
      match screening.screen role value location with
      | .ok _ => screening.argumentEventsFrom template step (index + 1) rest
      | .error _ => []

/-- The event for a step that is begun. -/
def stepEvent (index : Nat) (step : Step) : Event where
  severity := .debug
  message := "converting step"
  fields := [
    ("step", .text (toString index)), ("action", .text step.action),
    ("args", .text (toString step.args.length))]

/-- The events of a step. -/
def stepEvents (screening : Screening) (index : Nat) (step : Step) : List Event :=
  stepEvent index step ::
    match screening.actions.get? step.action with
    | some template =>
      if template.arity.admits step.args.length then
        screening.argumentEventsFrom template index 0 step.args
      else []
    | none =>
      match screening.unmapped with
      | .reject => []
      | .passthrough => [findingEvent (unmappedFinding step index)]

/-- The events of the steps from an index on. -/
def eventsFrom (screening : Screening) (index : Nat) : List Step → List Event
  | [] => []
  | step :: rest =>
    screening.stepEvents index step ++
      match screening.convertStep index step with
      | .ok _ => screening.eventsFrom (index + 1) rest
      | .error _ => []

/-- The events of converting a test case. -/
def events (screening : Screening) (case : TestCase) : List Event :=
  screening.eventsFrom 0 case.steps

end Screening

end ScreenedSuite
