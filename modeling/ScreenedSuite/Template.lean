import ScreenedSuite.Rule.Basic
import ScreenedSuite.Token

/-! # Action templates

A template says how one action becomes keyword calls: how many arguments it takes, how each of
them is treated, and which literals and further calls go with it.
-/

namespace ScreenedSuite

/-- How an argument is treated. -/
inductive Role where
  /-- A shell command, screened. -/
  | command
  /-- A file system path, screened. -/
  | path
  /-- Free text, not screened. -/
  | text
deriving DecidableEq, Repr

namespace Role

/-- The name of a role. -/
def name : Role → String
  | command => "command"
  | path => "path"
  | text => "text"

/-- The list that screens arguments of a role, if they are screened. -/
def screenedBy : Role → Option ListKind
  | command => some .command
  | path => some .path
  | text => none

end Role

/-- How many arguments an action takes. -/
inductive Arity where
  | exactly (count : Nat)
  | atLeast (count : Nat)
deriving DecidableEq, Repr

namespace Arity

/-- Whether a number of arguments is accepted. -/
def admits : Arity → Nat → Bool
  | exactly count, given => given == count
  | atLeast count, given => count ≤ given

/-- The least number of arguments. -/
def least : Arity → Nat
  | exactly count => count
  | atLeast count => count

/-- The greatest number of arguments, if there is one. -/
def most : Arity → Option Nat
  | exactly count => some count
  | atLeast _ => none

/-- An arity in words. -/
def text : Arity → String
  | exactly count => s!"exactly {count}"
  | atLeast count => s!"at least {count}"

end Arity

/-- A call that follows the main call of an action. -/
structure FollowUp where
  keyword : String
  args : List String
  library : Option String
deriving DecidableEq, Repr

/-- How one action becomes keyword calls. -/
structure Template where
  keyword : String
  library : Option String := none
  /-- The roles of the required arguments. -/
  roles : List Role := []
  /-- The role of all further arguments, if there may be any. -/
  rest : Option Role := none
  /-- Literals behind the arguments. -/
  trailing : List String := []
  assign : Option String := none
  followUps : List FollowUp := []
deriving DecidableEq, Repr

/-- The statement of a following call. -/
def FollowUp.statement (followUp : FollowUp) : Statement where
  assign := none
  keyword := followUp.keyword
  args := followUp.args.map Token.generated
  library := followUp.library

namespace Template

/-- How many arguments the action takes. -/
def arity (template : Template) : Arity :=
  match template.rest with
  | none => .exactly template.roles.length
  | some _ => .atLeast template.roles.length

/-- The role of an argument, if the action takes one there. -/
def roleAt (template : Template) (index : Nat) : Option Role :=
  template.roles[index]?.or template.rest

/-- The main call for the given argument tokens. -/
def mainStatement (template : Template) (args : List Token) : Statement where
  assign := template.assign
  keyword := template.keyword
  args := args ++ template.trailing.map Token.generated
  library := template.library

/-- The calls for the given argument tokens. -/
def instantiate (template : Template) (args : List Token) : List Statement :=
  template.mainStatement args :: template.followUps.map FollowUp.statement

end Template

end ScreenedSuite
