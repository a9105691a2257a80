import WebScaffold.Generator.Basic
import WebScaffold.Json.Typed

/-!
# The command generator

A generator that runs the `claude` command for each request. The prompt goes to the command's input;
its output is one object, whose result is the text that the model wrote.
-/

namespace WebScaffold

/-- How a command is run. -/
structure ChildCall where
  arguments : List String
  input : String
  /-- Variables that are taken out of the environment. -/
  removedVariables : List String
deriving DecidableEq, Repr

/-- What is left of a command that has ended. A signal leaves no exit code. -/
structure ChildReply where
  output : String
  errors : String
  code? : Option Nat
deriving DecidableEq, Repr

namespace Child

open Json

def backendName : String := "claude"

def command : String := "claude"

/-- The call for a request. The variable that is removed would keep the command from running inside
a session of its own. -/
def callFor (model : Option String) (request : CompletionRequest) : ChildCall where
  arguments :=
    ["--print", "--output-format", "json"] ++
      (match model with
        | some name => ["--model", name]
        | none => []) ++
      (if request.system = "" then [] else ["--system-prompt", request.system])
  input := request.user
  removedVariables := ["CLAUDECODE"]

/-- The object that the command prints. -/
structure Envelope where
  isError : Bool
  result : Option String
deriving DecidableEq, Repr

def envelopeReader : RecordReader Envelope :=
  { name := "CliResult"
    fields :=
      [("is_error", fun cs ↦ do
          let (isError, rest) ← boolReader cs
          return (fun envelope ↦ { envelope with isError }, rest)),
        ("result", fun cs ↦ do
          let (result, rest) ← optionReader textReader cs
          return (fun envelope ↦ { envelope with result }, rest))]
    start := ⟨false, none⟩
    required := [] }

/-- The object in an output, which may have blanks around it. -/
def readEnvelope (output : String) : Except GeneratorError Envelope :=
  (parseWith envelopeReader.reader (Text.trim output)).mapError fun error ↦
    .parse ⟨error, headOf output.toList⟩

def exitText : Option Nat → String
  | some code => toString code
  | none => "signal"

/-- The answer of a command that has ended. -/
def readReply (reply : ChildReply) : Except GeneratorError Json :=
  if reply.code? = some 0 then do
    let envelope ← readEnvelope reply.output
    if envelope.isError then
      throw (.process ("claude returned an error result: " ++ envelope.result.getD ""))
    readAnswer (envelope.result.getD "{}")
  else
    .error (.process
      ("claude exited with " ++ exitText reply.code? ++ "\nstderr: " ++ Text.trim reply.errors))

/-- The answer of a command, if there is such a command. -/
def answer (reply? : Option ChildReply) : Except GeneratorError Json :=
  match reply? with
  | some reply => readReply reply
  | none => .error (.file .missing)

/-- The command as a generator. -/
def generator (model : Option String)
    (run : List CompletionRequest → ChildCall → Option ChildReply) : Generator where
  name := backendName
  complete earlier request := pure (.ofExcept (answer (run earlier (callFor model request))))

end Child

end WebScaffold
