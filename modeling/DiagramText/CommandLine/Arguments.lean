import DiagramText.CommandLine.Parameter

/-!
# Arguments

Arguments are read from left to right. An option is written `--name value` or `--name=value`, a flag `--name`, and
behind `--` every argument is taken for itself. `Invocation.ofArguments` says what the arguments ask for, or why they
are refused.

A value is checked when the argument behind it has been understood: of two faults next to each other, an argument that
is not understood counts before the value in front of it.
-/

namespace DiagramText.CommandLine

/-- Why a reading of arguments ends early. -/
inductive EarlyEnd where
  /-- The user asked for help. -/
  | help
  | misuse (cause : Misuse)
  deriving DecidableEq

/-- Refuses the arguments. -/
def refuse {α : Type} (cause : Misuse) : Except EarlyEnd α :=
  .error (.misuse cause)

/-! ## One argument -/

/-- What an argument looks like. -/
inductive Argument where
  /-- The sign `--`. -/
  | separator
  /-- An option with its value, if one is attached. -/
  | option (name : Text) (value : Option Text)
  /-- A dash and the letters behind it. -/
  | letters (first : Char)
  | plain
  deriving DecidableEq

/-- What an argument looks like. A single dash is taken for itself. -/
def Argument.ofText (argument : Text) : Argument :=
  match argument with
  | ['-', '-'] => separator
  | '-' :: '-' :: rest =>
    match rest.dropWhile (· ≠ '=') with
    | [] => option rest none
    | _ :: value => option (rest.takeWhile (· ≠ '=')) (some value)
  | '-' :: letter :: _ => letters letter
  | _ => plain

/-! ## Reading -/

/-- How far a level of arguments has been read: those before the subcommand, or those behind it. -/
structure Reading where
  given : Given := {}
  /-- A parameter whose value has not been checked, with the value if it has been read. -/
  pending : Option (Parameter × Option Text) := none
  /-- The parameters for arguments without a name. -/
  positionals : List Parameter
  /-- Whether `--` has been read. -/
  separated : Bool := false

namespace Reading

/-- Checks and sets the value that is pending. -/
def settle (r : Reading) : Except EarlyEnd Reading :=
  match r.pending with
  | none => .ok r
  | some (p, none) => refuse (.missingValue p)
  | some (p, some value) =>
    match p.set r.given value with
    | .ok given => .ok { r with given := given, pending := none }
    | .error cause => refuse cause

/-- Reads an option, where `options` are the options that can stand here. -/
def option (r : Reading) (options : List Parameter) (name : Text) (value : Option Text) : Except EarlyEnd Reading := do
  match options.find? fun p => p.optionName?.any (·.toList = name) with
  | some p =>
    match p.isFlag, value with
    | true, some value => refuse (.unexpectedValue p.shown.toList value)
    | true, none =>
      let r ← r.settle
      settle { r with pending := some (p, some []) }
    | false, some value =>
      let r ← r.settle
      settle { r with pending := some (p, some value) }
    | false, none =>
      let r ← r.settle
      return { r with pending := some (p, none) }
  | none =>
    if name = "help".toList then
      match value with
      | some value => refuse (.unexpectedValue "--help".toList value)
      | none =>
        let _ ← r.settle
        .error .help
    else refuse (.unexpectedArgument ('-' :: '-' :: name))

/-- Reads letters behind a dash, of which only `h` has a meaning. -/
def letters (r : Reading) (first : Char) : Except EarlyEnd Reading := do
  if first = 'h' then
    let _ ← r.settle
    .error .help
  else refuse (.unexpectedArgument ['-', first])

/-- Reads an argument without a name; `none` means that none is expected here. -/
def positional? (r : Reading) (argument : Text) : Option (Except EarlyEnd Reading) :=
  match r.positionals with
  | [] => none
  | p :: rest => some do
    let r ← r.settle
    return { r with pending := some (p, some argument), positionals := rest }

/-- Takes an argument for the value that is awaited, if one is. -/
def value? (r : Reading) (argument : Text) : Option Reading :=
  match r.pending with
  | some (p, none) => some { r with pending := some (p, some argument) }
  | _ => none

end Reading

/-! ## Behind the subcommand -/

/-- Reads the arguments behind a subcommand. -/
def readBehind (options : List Parameter) (r : Reading) : List Text → Except EarlyEnd Given
  | [] => do return (← r.settle).given
  | argument :: rest => do
    let taken := match r.positional? argument with
      | some read => read
      | none => refuse (.unexpectedArgument argument)
    if r.separated then readBehind options (← taken) rest
    else
      match Argument.ofText argument with
      | .separator => readBehind options { r with separated := true } rest
      | .option name value => readBehind options (← r.option options name value) rest
      | .letters first => readBehind options (← r.letters first) rest
      | .plain =>
        match r.value? argument with
        | some r => readBehind options r rest
        | none => readBehind options (← taken) rest

/-! ## Jobs -/

/-- What the program is asked to do. -/
inductive Job where
  | format (file : Option Text) (check : Bool)
  | detect (file : Option Text)
  | swap (line : Text)
  | nextId (file : Option Text)
  | actions (json : Bool)
  | action (action : Action) (file : Option Text) (line : Nat) (selection : Text) (diagram : Option Dialect)
  deriving DecidableEq

/-- Whether a job reads a text, and the file that it reads it from; without a file it reads the standard input. -/
def Job.source? : Job → Option (Option Text)
  | format file _ | detect file | nextId file | action _ file _ _ _ => some file
  | swap _ | actions _ => none

/-- The job of a subcommand with what is set behind it. -/
def Job.ofGiven (g : Given) : Subcommand → Except EarlyEnd Job
  | .format => .ok (format g.file g.check)
  | .detect => .ok (detect g.file)
  | .swap =>
    match g.arrowLine with
    | some line => .ok (swap line)
    | none => refuse .missingArguments
  | .nextId => .ok (nextId g.file)
  | .actions => .ok (actions g.json)
  | .action =>
    match g.action with
    | some a => .ok (action a g.file (g.line.getD 1) (g.selection.getD []) g.diagram)
    | none => refuse .missingArguments

/-! ## Before the subcommand -/

/-- What arguments ask for: what is set before the subcommand, and the job of the subcommand with what is set behind
it, if there is a subcommand. -/
structure Request where
  before : Given
  job : Option (Job × Given)

/-- The subcommand `help` with the names of the subcommands behind it. -/
def readHelp : List Text → EarlyEnd
  | [] => .help
  | name :: rest =>
    if name = "help".toList ∨ (Subcommand.ofName? name).isSome then
      match rest with
      | [] => .help
      | name :: _ => .misuse (.unknownSubcommand name)
    else .misuse (.unknownSubcommand name)

/-- Reads the job of a subcommand in the arguments behind it. -/
def readJob (subcommand : Subcommand) (arguments : List Text) : Except EarlyEnd (Job × Given) := do
  let given ← readBehind (subcommand.options ++ globalOptions) { positionals := subcommand.positionals } arguments
  return (← Job.ofGiven given subcommand, given)

/-- Reads all arguments. -/
def readBefore (r : Reading) : List Text → Except EarlyEnd Request
  | [] => do return ⟨(← r.settle).given, none⟩
  | argument :: rest => do
    if r.separated then
      if argument = "help".toList ∨ (Subcommand.ofName? argument).isSome then refuse (.unexpectedArgument argument)
      else refuse (.unknownSubcommand argument)
    else
      match Argument.ofText argument with
      | .separator => readBefore { r with separated := true } rest
      | .option name value => readBefore (← r.option globalOptions name value) rest
      | .letters first => readBefore (← r.letters first) rest
      | .plain =>
        match r.value? argument with
        | some r => readBefore r rest
        | none =>
          if argument = "help".toList then .error (readHelp rest)
          else
            match Subcommand.ofName? argument with
            | none => refuse (.unknownSubcommand argument)
            | some subcommand =>
              let job ← readJob subcommand rest
              return ⟨(← r.settle).given, some job⟩

/-! ## Invocations -/

/-- A job with the settings that arguments make for it. -/
structure Invocation where
  indentWidth : Option Text
  defaultDiagram : Option Text
  job : Job
  deriving DecidableEq

/-- What arguments ask for, or `none` where they ask for nothing at all. A setting behind the subcommand counts before
one in front of it. Variables that set something (`configured`) count as asking for a job. -/
def Invocation.ofArguments (arguments : List Text) (configured : Bool) : Except EarlyEnd (Option Invocation) := do
  let request ← readBefore { positionals := [] } arguments
  match request.job with
  | some (job, behind) =>
    return some ⟨behind.indentWidth.or request.before.indentWidth,
      behind.defaultDiagram.or request.before.defaultDiagram, job⟩
  | none => if configured ∨ request.before ≠ {} then refuse .missingSubcommand else return none

end DiagramText.CommandLine
