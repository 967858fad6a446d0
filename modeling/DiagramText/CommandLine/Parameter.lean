import DiagramText.Action
import DiagramText.Text.ControlSequence
import DiagramText.Text.Natural

/-!
# Parameters of the command line

- `Subcommand` lists what the program can be asked for, and `Parameter` what an argument can set;
- `Given` holds the values that arguments have set, and `Parameter.set` adds one of them;
- `Misuse` lists why arguments are refused, and `Misuse.message` says it to the user of a terminal.
-/

namespace DiagramText.CommandLine

/-- The name of the program. -/
def programName : String := "mermaid-edit"

/-- What the program is for. -/
def programPurpose : String := "Format and edit Mermaid flowchart and sequence diagrams"

/-! ## Subcommands and their parameters -/

/-- Something that an argument can set. -/
inductive Parameter where
  | indentWidth
  | defaultDiagram
  | file
  | check
  /-- The line whose ends are swapped. -/
  | arrowLine
  | json
  | action
  /-- The number of the line of the cursor. -/
  | line
  | selection
  | diagram
  deriving DecidableEq

namespace Parameter

/-- The name of a parameter that is set by an option. -/
def optionName? : Parameter → Option String
  | indentWidth => some "indent-width"
  | defaultDiagram => some "default-diagram"
  | check => some "check"
  | json => some "json"
  | line => some "line"
  | selection => some "selection"
  | diagram => some "diagram"
  | file | arrowLine | action => none

/-- How a parameter is shown to the user. -/
def shown : Parameter → String
  | indentWidth => "--indent-width <INDENT_WIDTH>"
  | defaultDiagram => "--default-diagram <DEFAULT_DIAGRAM>"
  | file => "[FILE]"
  | check => "--check"
  | arrowLine => "<LINE>"
  | json => "--json"
  | action => "<ACTION>"
  | line => "--line <LINE>"
  | selection => "--selection <SELECTION>"
  | diagram => "--diagram <DIAGRAM>"

/-- Whether an option stands for itself, without a value. -/
def isFlag : Parameter → Bool
  | check | json => true
  | _ => false

end Parameter

/-- Something that the program can be asked for. -/
inductive Subcommand where
  | format
  | detect
  | swap
  | nextId
  | actions
  | action
  deriving DecidableEq

namespace Subcommand

/-- Every subcommand, in the order in which they are listed to the user. -/
def all : List Subcommand := [format, detect, swap, nextId, actions, action]

/-- The name of a subcommand. -/
def name : Subcommand → String
  | format => "format"
  | detect => "detect"
  | swap => "swap"
  | nextId => "next-id"
  | actions => "actions"
  | action => "action"

/-- What a subcommand does. -/
def description : Subcommand → String
  | format => "Print the canonical form of a diagram"
  | detect => "Print the diagram type, or unknown"
  | swap => "Swap the endpoints of one edge or message line"
  | nextId => "Print the next free tempN node id"
  | actions => "List the editor actions with their labels and descriptions"
  | action => "Run an editor action and print the outcome as JSON"

/-- The subcommand with a given name. -/
def ofName? (name : Text) : Option Subcommand :=
  all.find? (·.name.toList = name)

/-- The parameters that arguments without a name set, in their order. -/
def positionals : Subcommand → List Parameter
  | format | detect | nextId => [.file]
  | swap => [.arrowLine]
  | actions => []
  | action => [.action, .file]

/-- The parameters that options of a subcommand set. -/
def options : Subcommand → List Parameter
  | format => [.check]
  | actions => [.json]
  | action => [.line, .selection, .diagram]
  | detect | swap | nextId => []

end Subcommand

/-- The options that can stand before and behind the subcommand. -/
def globalOptions : List Parameter := [.indentWidth, .defaultDiagram]

/-! ## Misuse -/

/-- Why arguments are refused. -/
inductive Misuse where
  | missingSubcommand
  | unknownSubcommand (name : Text)
  | unexpectedArgument (argument : Text)
  /-- A value for an option that takes none. -/
  | unexpectedValue (option : Text) (value : Text)
  | missingValue (parameter : Parameter)
  | repeated (parameter : Parameter)
  | invalidNumber (parameter : Parameter) (value : Text) (cause : NumberError)
  | unknownAction (parameter : Parameter) (value : Text)
  | unknownDialect (parameter : Parameter) (value : Text)
  | missingArguments
  deriving DecidableEq

/-- Why a number cannot be read, for the user. -/
def numberErrorMessage : NumberError → String
  | .empty => "cannot parse integer from empty string"
  | .invalidDigit => "invalid digit found in string"
  | .tooLarge => "number too large to fit in target type"

/-- A text between single quotes. -/
def inQuotes (text : Text) : Text :=
  '\'' :: text ++ ['\'']

/-- What the user has written wrongly, in single quotes and in yellow. -/
def fault (text : Text) : Text :=
  inQuotes (text.rendered "33")

/-- What the user can write, in single quotes and in bold. -/
def literal (text : Text) : Text :=
  inQuotes (text.rendered "1")

/-- How a message starts that refuses a value. -/
def invalidValue (parameter : Parameter) (value : Text) : Text :=
  "invalid value ".toList ++ fault value ++ " for ".toList ++ literal parameter.shown.toList ++ ": ".toList

/-- What the user is told about refused arguments, for a terminal. The cause behind a refused value repeats the value as
it is written. -/
def Misuse.message : Misuse → Text
  | missingSubcommand =>
    fault programName.toList ++ " requires a subcommand but one was not provided".toList
  | unknownSubcommand name => "unrecognized subcommand ".toList ++ fault name
  | unexpectedArgument argument => "unexpected argument ".toList ++ fault argument ++ " found".toList
  | unexpectedValue option value =>
    "unexpected value ".toList ++ fault value ++ " for ".toList ++ literal option ++
      " found; no more were expected".toList
  | missingValue parameter =>
    "a value is required for ".toList ++ literal parameter.shown.toList ++ " but none was supplied".toList
  | repeated parameter =>
    "the argument ".toList ++ literal parameter.shown.toList ++ " cannot be used multiple times".toList
  | invalidNumber parameter value cause => invalidValue parameter value ++ (numberErrorMessage cause).toList
  | unknownAction parameter value =>
    invalidValue parameter value ++ "unknown action ".toList ++ inQuotes value ++ " (expected one of: ".toList ++
      ", ".toList.intercalate (Action.all.map (·.id.toList)) ++ [')']
  | unknownDialect parameter value => invalidValue parameter value ++ "unknown diagram type ".toList ++ inQuotes value
  | missingArguments => "the following required arguments were not provided:".toList

/-- Where the user finds more. -/
def helpHint : Text :=
  "For more information, try ".toList ++ literal "--help".toList ++ ['.']

/-! ## Values -/

/-- The values that arguments have set. -/
structure Given where
  indentWidth : Option Text := none
  defaultDiagram : Option Text := none
  file : Option Text := none
  check : Bool := false
  arrowLine : Option Text := none
  json : Bool := false
  action : Option Action := none
  line : Option Nat := none
  selection : Option Text := none
  diagram : Option Dialect := none
  deriving DecidableEq

namespace Parameter

/-- Whether a parameter has been set. -/
def isGiven (g : Given) : Parameter → Bool
  | indentWidth => g.indentWidth.isSome
  | defaultDiagram => g.defaultDiagram.isSome
  | file => g.file.isSome
  | check => g.check
  | arrowLine => g.arrowLine.isSome
  | json => g.json
  | action => g.action.isSome
  | line => g.line.isSome
  | selection => g.selection.isSome
  | diagram => g.diagram.isSome

/-- Reads the value of a parameter. A flag takes no notice of it. -/
def read (g : Given) (value : Text) : Parameter → Except Misuse Given
  | indentWidth => .ok { g with indentWidth := some value }
  | defaultDiagram => .ok { g with defaultDiagram := some value }
  | file => if value = [] then .error (.missingValue file) else .ok { g with file := some value }
  | check => .ok { g with check := true }
  | arrowLine => .ok { g with arrowLine := some value }
  | json => .ok { g with json := true }
  | action =>
    match Action.ofId? value with
    | some a => .ok { g with action := some a }
    | none => .error (.unknownAction action value)
  | line =>
    match Text.natural? value with
    | .ok n => .ok { g with line := some n }
    | .error cause => .error (.invalidNumber line value cause)
  | selection => .ok { g with selection := some value }
  | diagram =>
    match Dialect.ofId? value with
    | some d => .ok { g with diagram := some d }
    | none => .error (.unknownDialect diagram value)

/-- Sets a parameter that has not been set before. -/
def set (g : Given) (value : Text) (p : Parameter) : Except Misuse Given :=
  if p.isGiven g then .error (.repeated p) else p.read g value

end Parameter

end DiagramText.CommandLine
