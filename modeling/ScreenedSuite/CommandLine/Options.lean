import ScreenedSuite.Choice

/-! # Options

The arguments of a command line are taken one by one. A long option has its value in the next
argument or behind an equals sign; short options may share an argument, of which the rest is the
value of the first one that takes a value. After `--` every argument is an input. The first
argument that does not fit decides.
-/

namespace ScreenedSuite.CommandLine

/-- What a command line asks for. -/
structure Options where
  /-- The file with the test case. -/
  input : Option String := none
  /-- The file that the suite is written to. -/
  output : Option String := none
  level : Option Level := none
  unmapped : Option UnmappedPolicy := none
  /-- The file with the settings. -/
  settings : Option String := none
  findingsJson : Bool := false
  verbose : Bool := false
deriving DecidableEq, Repr

/-- Why a command line is not run. -/
inductive Stop where
  /-- It asks for help. -/
  | help
  /-- It asks for the version. -/
  | version
  /-- It does not follow the rules. -/
  | usage
deriving DecidableEq, Repr

/-- What reading a command line returns. -/
abbrev Parsed (α : Type) :=
  Except Stop α

/-- The options that take a value. -/
inductive ValueOption where
  | output
  | level
  | unmapped
  | settings
deriving DecidableEq, Repr

/-- The options that stand for themselves. -/
inductive Flag where
  | findingsJson
  | verbose
  | help
  | version
deriving DecidableEq, Repr

/-- An option of either kind. -/
abbrev Switch :=
  ValueOption ⊕ Flag

/-- The option of a long name. -/
def longOption? : String → Option Switch
  | "output" => some (.inl .output)
  | "security-level" => some (.inl .level)
  | "unmapped-actions" => some (.inl .unmapped)
  | "config" => some (.inl .settings)
  | "findings-json" => some (.inr .findingsJson)
  | "verbose" => some (.inr .verbose)
  | "help" => some (.inr .help)
  | "version" => some (.inr .version)
  | _ => none

/-- The option of a letter. -/
def shortOption? : Char → Option Switch
  | 'o' => some (.inl .output)
  | 'l' => some (.inl .level)
  | 'c' => some (.inl .settings)
  | 'v' => some (.inr .verbose)
  | 'h' => some (.inr .help)
  | 'V' => some (.inr .version)
  | _ => none

/-- A value that is given for the first time. -/
def giveOnce {α : Type} (given : Option α) (value : Option α) : Parsed (Option α) :=
  match given, value with
  | none, some value => .ok (some value)
  | _, _ => .error .usage

/-- A path, which may not be empty. -/
def pathValue (value : String) : Option String :=
  if value.isEmpty then none else some value

/-- The options with a value given to one of them. -/
def Options.give (options : Options) (option : ValueOption) (value : String) : Parsed Options :=
  match option with
  | .output => do return { options with output := ← giveOnce options.output (pathValue value) }
  | .level => do return { options with level := ← giveOnce options.level (Level.ofChoice? value) }
  | .unmapped => do
    return { options with unmapped := ← giveOnce options.unmapped (UnmappedPolicy.ofChoice? value) }
  | .settings => do
    return { options with settings := ← giveOnce options.settings (pathValue value) }

/-- The options with a flag raised. -/
def Options.raise (options : Options) : Flag → Parsed Options
  | .findingsJson =>
    if options.findingsJson then .error .usage else .ok { options with findingsJson := true }
  | .verbose => if options.verbose then .error .usage else .ok { options with verbose := true }
  | .help => .error .help
  | .version => .error .version

/-- The options with the input given. -/
def Options.giveInput (options : Options) (path : String) : Parsed Options := do
  return { options with input := ← giveOnce options.input (pathValue path) }

/-- The options after an argument of short options, and the one that still lacks its value. -/
def readShort (options : Options) : List Char → Parsed (Options × Option ValueOption)
  | [] => .ok (options, none)
  | letter :: rest =>
    match shortOption? letter with
    | none => .error .usage
    | some (.inr flag) => do readShort (← options.raise flag) rest
    | some (.inl option) =>
      match rest with
      | [] => .ok (options, some option)
      | '=' :: value => do return (← options.give option (String.ofList value), none)
      | value => do return (← options.give option (String.ofList value), none)

/-- The options after a long option without its dashes, and the one that still lacks its value. -/
def readLong (options : Options) (text : List Char) : Parsed (Options × Option ValueOption) :=
  let name := String.ofList (text.takeWhile (· != '='))
  match longOption? name, text.dropWhile (· != '=') with
  | some (.inl option), [] => .ok (options, some option)
  | some (.inl option), _ :: value => do
    return (← options.give option (String.ofList value), none)
  | some (.inr flag), [] => do return (← options.raise flag, none)
  | _, _ => .error .usage

/-- The options after the remaining arguments. `open?` is the option that still lacks its value. -/
def readFrom (options : Options) (open? : Option ValueOption) : List String → Parsed Options
  | [] => if open?.isSome then .error .usage else .ok options
  | argument :: rest =>
    match open?, argument.toList with
    | some _, '-' :: _ :: _ => .error .usage
    | some option, _ => do readFrom (← options.give option argument) none rest
    | none, ['-', '-'] => rest.foldlM Options.giveInput options
    | none, '-' :: '-' :: text => do
      let (options, open?) ← readLong options text
      readFrom options open? rest
    | none, '-' :: letter :: letters => do
      let (options, open?) ← readShort options (letter :: letters)
      readFrom options open? rest
    | none, _ => do readFrom (← options.giveInput argument) none rest

/-- The options that arguments write. -/
def Options.ofArguments (arguments : List String) : Parsed Options :=
  readFrom {} none arguments

end ScreenedSuite.CommandLine
