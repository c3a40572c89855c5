import ScreenedSuite.Catalog.Override
import ScreenedSuite.Screening.Events
import ScreenedSuite.Settings.Reader
import ScreenedSuite.Suite
import ScreenedSuite.TestCase

/-! # Converters

A converter is made once from settings and a table of actions, and turns any number of JSON texts
into scripts.
-/

namespace ScreenedSuite

/-- A conversion set up once for many texts. -/
structure Converter where
  screening : Screening
  separatorWidth : Nat

/-- The text of a suite, with the findings recorded while it was made. -/
structure Script where
  text : String
  findings : List Finding
deriving DecidableEq, Repr

namespace Catalog

/-- The event for a level with replaced lists. -/
def overrideEvent (level : Level) (override : ListOverride) : Event where
  severity := .debug
  message := "applying pattern overrides"
  fields := [
    ("level", .text level.name),
    ("commands", .text (toString override.commands.isSome)),
    ("paths", .text (toString override.paths.isSome))]

/-- The events of building the pattern sets of some levels, up to the first that fails. -/
def buildEvents (properties : PropertyTable) (overrides : Overrides) : List Level → List Event
  | [] => []
  | level :: rest =>
    ((overrides.at? level).map (overrideEvent level)).toList ++
      match buildSet properties overrides level with
      | .ok _ => buildEvents properties overrides rest
      | .error _ => []

end Catalog

namespace Converter

/-- The converter that settings and a table of actions describe. -/
def ofSettings (properties : PropertyTable) (settings : Settings) (actions : ActionTable) :
    Except Failure Converter :=
  match settings.validate with
  | .error error => .error (.configuration error)
  | .ok settings =>
    match Catalog.build properties settings.overrides with
    | .error error => .error (.configuration error)
    | .ok catalog => .ok {
        screening := ⟨catalog, actions, settings.unmapped, settings.level⟩
        separatorWidth := settings.separatorWidth }

/-- The events of making a converter. -/
def setupEvents (properties : PropertyTable) (settings : Settings) : List Event :=
  match settings.validate with
  | .error _ => []
  | .ok settings => Catalog.buildEvents properties settings.overrides Level.all

/-- The level at which the converter screens. -/
def level (converter : Converter) : Level :=
  converter.screening.level

/-- The script for a converted test case. -/
def script (converter : Converter) (conversion : Conversion) : Script :=
  ⟨Suite.render converter.separatorWidth conversion, conversion.findings⟩

/-- The script for a JSON text. -/
def convert (converter : Converter) (text : String) : Except Failure Script := do
  let case ← TestCase.ofText? text
  let conversion ← converter.screening.convert case
  return converter.script conversion

/-- The event for a test case that is converted. -/
def convertedEvent (converter : Converter) (conversion : Conversion) : Event where
  severity := .info
  message := "converted test case"
  fields := [
    ("test", .text conversion.name), ("level", .text converter.level.name),
    ("statements", .text (toString conversion.statements.length)),
    ("findings", .text (toString conversion.findings.length))]

/-- The events of converting a JSON text. -/
def events (converter : Converter) (text : String) : List Event :=
  match TestCase.ofText? text with
  | .error _ => []
  | .ok case =>
    converter.screening.events case ++
      match converter.screening.convert case with
      | .error _ => []
      | .ok conversion => [converter.convertedEvent conversion]

end Converter

end ScreenedSuite
