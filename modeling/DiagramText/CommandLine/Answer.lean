import DiagramText.CommandLine.Arguments
import DiagramText.Json.Domain
import DiagramText.Settings
import DiagramText.Text.Quoted

/-!
# Answers of the command line

`answer` says what the program writes, and with which code it ends, given its arguments and its surroundings. The
arguments are read first, then the settings, and only then the text that the job needs.
-/

namespace DiagramText.CommandLine

/-! ## Surroundings -/

/-- Why a text cannot be read. -/
inductive ReadError where
  | notFound
  | isDirectory
  | notUnicode
  deriving DecidableEq

/-- What the program can see beside its arguments. -/
structure Surroundings where
  environment : String → Option Text
  standardInput : Except ReadError Text
  file : Text → Except ReadError Text

/-! ## Failures -/

/-- Why a job fails. -/
inductive Failure where
  | read (cause : ReadError)
  | settings (cause : SettingsError)
  | notFormatted
  deriving DecidableEq

/-- What the user is told about a text that cannot be read. -/
def ReadError.message : ReadError → Text
  | notFound => "Os \x7b code: 2, kind: NotFound, message: \"No such file or directory\" \x7d".toList
  | isDirectory => "Os \x7b code: 21, kind: IsADirectory, message: \"Is a directory\" \x7d".toList
  | notUnicode => "Error \x7b kind: InvalidData, message: \"stream did not contain valid UTF-8\" \x7d".toList

/-- A cause in brackets behind its name. -/
def named (name : String) (cause : Text) : Text :=
  name.toList ++ '(' :: cause ++ [')']

/-- What the user is told about a failure. -/
def Failure.message : Failure → Text
  | read cause => named "Io" cause.message
  | settings (.indentWidth raw) => named "Config" (named "InvalidIndentWidth" (Text.quoted raw))
  | settings (.dialect raw) => named "Config" (named "UnknownDiagramType" (Text.quoted raw))
  | notFormatted => "NotFormatted".toList

/-! ## Jobs -/

/-- The text that a job reads: a file, or the standard input. -/
def Surroundings.text (s : Surroundings) (file : Option Text) : Except Failure Text :=
  (file.elim s.standardInput s.file).mapError .read

/-- A text with spaces behind it up to a width. -/
def padded (width : Nat) (text : Text) : Text :=
  text ++ List.replicate (width - text.length) ' '

/-- The line of an action in the list of actions. -/
def menuLine (a : Action) : Text :=
  padded 22 a.id.toList ++ ' ' :: padded 22 a.label.toList ++ ' ' :: a.description.toList ++ ['\n']

/-- A value over several lines, the last of which ends with a newline. -/
def jsonLines (value : Json) : Text :=
  value.pretty ++ ['\n']

/-- What a job writes, or why it fails. -/
def Job.output (settings : Settings) (s : Surroundings) : Job → Except Failure Text
  | format file check => do
    let text ← s.text file
    let pretty := prettify settings.unit text
    if check then (if pretty = text then return [] else .error .notFormatted) else return pretty
  | detect file => do
    let text ← s.text file
    return ((Dialect.detect? text).elim "unknown" Dialect.id).toList ++ ['\n']
  | swap line => return swapEnds line ++ ['\n']
  | nextId file => do
    let text ← s.text file
    return freshNode text ++ ['\n']
  | actions json =>
    return if json then jsonLines (.list (Action.all.map Action.menuEntry)) else Action.all.flatMap menuLine
  | action a file line selection diagram => do
    let text ← s.text file
    let context := settings.contextFor text
    let context := { context with dialect := diagram.getD context.dialect }
    return jsonLines (runAction a (.ofText text) ⟨line, 1⟩ selection context).toJson

/-- What an invocation writes, or why it fails. -/
def Invocation.output (i : Invocation) (s : Surroundings) : Except Failure Text :=
  let lookup (name : String) : Option Text :=
    (if name = indentWidthVariable then i.indentWidth else i.defaultDiagram).or (s.environment name)
  match Settings.ofVariables lookup with
  | .error cause => .error (.settings cause)
  | .ok settings => i.job.output settings s

/-! ## Answers -/

/-- What a run of the program leaves behind. -/
structure Answer where
  code : Nat
  output : Text
  errors : Text
  deriving DecidableEq

/-- The names and the descriptions of the subcommands, a line each. -/
def overview : Text :=
  Text.unlines <| programPurpose.toList :: [] :: ("Usage: ".toList ++ programName.toList ++ " <COMMAND>".toList) ::
    Subcommand.all.map fun s => "  ".toList ++ padded 8 s.name.toList ++ ' ' :: s.description.toList

/-- What is written about refused arguments: the message and the hint, without the control sequences that only a
terminal reads. -/
def Misuse.report (cause : Misuse) : Text :=
  Text.withoutControls ("error: ".toList ++ cause.message ++ "\n\n".toList ++ helpHint ++ ['\n'])

/-- What the program answers to its arguments. -/
def answer (arguments : List Text) (s : Surroundings) : Answer :=
  let configured := [indentWidthVariable, dialectVariable].any fun name => (s.environment name).isSome
  match Invocation.ofArguments arguments configured with
  | .error .help => ⟨0, overview ++ ['\n'], []⟩
  | .error (.misuse cause) => ⟨2, [], cause.report⟩
  | .ok none => ⟨2, [], overview ++ ['\n']⟩
  | .ok (some invocation) =>
    match invocation.output s with
    | .ok output => ⟨0, output, []⟩
    | .error failure => ⟨1, [], "Error: ".toList ++ failure.message ++ ['\n']⟩

end DiagramText.CommandLine
