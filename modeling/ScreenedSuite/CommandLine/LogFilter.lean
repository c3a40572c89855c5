import ScreenedSuite.Event
import ScreenedSuite.Unicode.CodeSet

/-! # Log filters

A filter says how important an event has to be to be told. It is written as directives separated
by commas: a level for everything, or the name of a program with a level for that program alone.
The most specific directive decides, and of equal ones the last.
-/

namespace ScreenedSuite.CommandLine

/-- The rank up to which events are told; nothing has rank zero. -/
abbrev LogFilter :=
  Nat

/-- Whether an event is told. -/
def LogFilter.admits (filter : LogFilter) (event : Event) : Bool :=
  event.severity.rank ≤ filter

/-- A directive: the start of the names it is for, and the rank of the last events told. -/
structure Directive where
  target : String
  rank : Nat
deriving DecidableEq, Repr

/-- The rank that a level names. -/
def rankOf? (level : String) : Option Nat :=
  match String.ofList (level.toList.map Char.toLower) with
  | "" => some 1
  | "off" => some 0
  | "error" => some 1
  | "warn" => some 2
  | "info" => some 3
  | "debug" => some 4
  | "trace" => some 5
  | digits => if digits.toList.all Char.isDigit then digits.toNat?.filter (· ≤ 5) else none

/-- Whether a character may begin a directive. -/
def startsDirective (c : Char) : Bool :=
  c.isAlphanum || c == '-' || c == ':' || c == '_'

/-- The directive that a text writes. -/
def Directive.ofText? (text : String) : Option Directive :=
  let chars := Unicode.trim text.toList
  match chars with
  | [] => some ⟨"", Severity.trace.rank⟩
  | first :: _ =>
    if !startsDirective first || chars.contains '[' then none
    else
      let name := String.ofList (chars.takeWhile (· != '='))
      match chars.dropWhile (· != '=') with
      | [] =>
        match rankOf? name with
        | some rank => some ⟨"", rank⟩
        | none => some ⟨name, Severity.trace.rank⟩
      | [_] => some ⟨name, Severity.trace.rank⟩
      | _ :: level => (rankOf? (String.ofList level)).map (⟨name, ·⟩)

/-- The name that the events of this program come under. -/
def programName : String :=
  "json2robot"

/-- The more specific of two directives for this program, the later one of equal ones. -/
def moreSpecific (decided : Option Directive) (directive : Directive) : Option Directive :=
  if directive.target.toList.isPrefixOf programName.toList then
    match decided with
    | none => some directive
    | some earlier =>
      if earlier.target.length ≤ directive.target.length then some directive else some earlier
  else decided

/-- The filter that a text writes. -/
def LogFilter.ofText? (text : String) : Option LogFilter := do
  let pieces := (text.splitOn ",").filter (!·.isEmpty)
  let directives ← pieces.mapM Directive.ofText?
  if directives.isEmpty then return Severity.error.rank
  else return ((directives.foldl moreSpecific none).map (·.rank)).getD 0

/-- The filter of a run, given what the environment asks for. -/
def LogFilter.choose (requested : Option String) (verbose : Bool) : LogFilter :=
  match requested.bind LogFilter.ofText? with
  | some filter => filter
  | none => if verbose then Severity.debug.rank else Severity.warn.rank

end ScreenedSuite.CommandLine
