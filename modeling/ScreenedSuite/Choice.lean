import ScreenedSuite.Unicode.CodeSet
import ScreenedSuite.Unicode.LowerCase

/-! # Choices among a few names

A level says how much is screened, and a policy what becomes of an action that nobody knows. A
choice typed by name is read without regard to white space around it and to letter case.
-/

namespace ScreenedSuite

/-- A typed choice without the white space around it, in lower case. -/
def plainChoice (typed : String) : String :=
  String.ofList (Unicode.lowerCase (Unicode.trim typed.toList))

/-! ## Security levels

Three levels of screening, from the least to the most restrictive. A level uses the rules of its own
tier and of every tier below.
-/

/-- How much is flagged, and what happens to a dangerous command. -/
inductive Level where
  /-- Only unambiguous patterns. -/
  | permissive
  /-- The balanced pattern set. -/
  | standard
  /-- The broadest pattern set; dangerous commands are refused. -/
  | strict
deriving DecidableEq, Repr, Inhabited

namespace Level

/-- All levels, least restrictive first. -/
def all : List Level :=
  [permissive, standard, strict]

/-- The position of a level among all levels. -/
def rank : Level → Nat
  | permissive => 0
  | standard => 1
  | strict => 2

/-- Whether the rules of a tier are in use at the level. -/
def includes (level tier : Level) : Bool :=
  tier.rank ≤ level.rank

/-- The name of a level. -/
def name : Level → String
  | permissive => "permissive"
  | standard => "standard"
  | strict => "strict"

/-- The level with exactly the given name. -/
def ofName? (name : String) : Option Level :=
  all.find? (·.name == name)

/-- The level that a person typed. -/
def ofChoice? (typed : String) : Option Level :=
  ofName? (plainChoice typed)

end Level

/-! ## Policies for unmapped actions

What becomes of a step whose action no template maps to keywords.
-/

/-- What becomes of a step with an unmapped action. -/
inductive UnmappedPolicy where
  /-- The conversion fails. -/
  | reject
  /-- The step becomes a comment and is recorded. -/
  | passthrough
deriving DecidableEq, Repr, Inhabited

namespace UnmappedPolicy

/-- All policies. -/
def all : List UnmappedPolicy :=
  [reject, passthrough]

/-- The name of a policy. -/
def name : UnmappedPolicy → String
  | reject => "reject"
  | passthrough => "passthrough"

/-- The policy with exactly the given name. -/
def ofName? (name : String) : Option UnmappedPolicy :=
  all.find? (·.name == name)

/-- The policy that a person typed. -/
def ofChoice? (typed : String) : Option UnmappedPolicy :=
  ofName? (plainChoice typed)

end UnmappedPolicy

end ScreenedSuite
