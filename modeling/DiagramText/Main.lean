import DiagramText.CommandLine.Answer

/-!
# The program

Collects the arguments, the variables and the text that the job reads, and writes the answer of the command line.
-/

namespace DiagramText.CommandLine

/-- The text that some bytes encode. -/
def textOfBytes (bytes : ByteArray) : Except ReadError Text :=
  match String.fromUTF8? bytes with
  | some text => .ok text.toList
  | none => .error .notUnicode

/-- The text of a file. -/
def readFile (name : Text) : IO (Except ReadError Text) := do
  try
    return textOfBytes (← IO.FS.readBinFile (String.ofList name))
  catch
    | .inappropriateType .. => return .error .isDirectory
    | _ => return .error .notFound

/-- The text that the job of some arguments reads, empty where it reads none. -/
def readSource (arguments : List Text) : IO (Except ReadError Text) := do
  match Invocation.ofArguments arguments false with
  | .ok (some invocation) =>
    match invocation.job.source? with
    | some (some name) => readFile name
    | some none => return textOfBytes (← (← IO.getStdin).readBinToEnd)
    | none => return .ok []
  | _ => return .ok []

/-- Answers some arguments; the code says whether the program did what they ask for. -/
def run (arguments : List Text) : IO UInt32 := do
  let width ← IO.getEnv indentWidthVariable
  let dialect ← IO.getEnv dialectVariable
  let source ← readSource arguments
  let environment (name : String) : Option Text :=
    (if name = indentWidthVariable then width else dialect).map String.toList
  let answer := answer arguments ⟨environment, source, fun _ => source⟩
  (← IO.getStdout).putStr (String.ofList answer.output)
  (← IO.getStderr).putStr (String.ofList answer.errors)
  return answer.code.toUInt32

end DiagramText.CommandLine

/-- The program. -/
def main (arguments : List String) : IO UInt32 :=
  DiagramText.CommandLine.run (arguments.map String.toList)
