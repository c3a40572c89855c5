/-! # Argument tokens and statements

A token is one argument of a keyword call, together with where its text came from. A statement is
one keyword call of the generated suite.
-/

namespace ScreenedSuite

/-- Where the text of a token came from. -/
inductive Provenance where
  /-- A literal of a template. -/
  | generated
  /-- Input that is not subject to screening. -/
  | verbatim
  /-- Input that passed screening. -/
  | screened
  /-- A placeholder for input that was withheld. -/
  | redacted
deriving DecidableEq, Repr

/-- All provenances. -/
def Provenance.all : List Provenance :=
  [.generated, .verbatim, .screened, .redacted]

/-- The name of a provenance. -/
def Provenance.name : Provenance → String
  | generated => "generated"
  | verbatim => "verbatim"
  | screened => "screened"
  | redacted => "redacted"

/-- One argument of a keyword call. -/
structure Token where
  value : String
  provenance : Provenance
deriving DecidableEq, Repr

namespace Token

/-- A literal of a template. -/
def generated (value : String) : Token :=
  ⟨value, .generated⟩

/-- Input that is not subject to screening. -/
def verbatim (value : String) : Token :=
  ⟨value, .verbatim⟩

/-- Input that passed screening. -/
def screened (value : String) : Token :=
  ⟨value, .screened⟩

/-- The placeholder for withheld input. -/
def redacted : Token :=
  ⟨"[REDACTED]", .redacted⟩

end Token

/-- One keyword call. -/
structure Statement where
  /-- The variable that takes the result of the call. -/
  assign : Option String
  keyword : String
  args : List Token
  /-- The library that provides the keyword. -/
  library : Option String
deriving DecidableEq, Repr

end ScreenedSuite
