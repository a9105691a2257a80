import WebScaffold.File.Path

/-!
# The build gate

Installing the packages of a project, checking its types and building it, as runs of the package
manager. The first run that fails ends the gate.
-/

namespace WebScaffold

/-- A run of a tool in a directory. -/
structure ToolCall where
  arguments : List String
  directory : Path
deriving DecidableEq, Repr

/-- The tools of a system: which there are, and with what code a run of one ends. The code may
depend on all earlier runs. -/
structure Tools where
  available : String → Bool
  exitCode : (earlier : List ToolCall) → ToolCall → Nat

inductive ToolError where
  | missing (name : String)
  | failed (command : String) (code : Nat)
deriving DecidableEq, Repr

def ToolError.message : ToolError → String
  | missing name => "'" ++ name ++ "' not found on PATH"
  | failed command code => s!"{command} failed with exit status: {code}"

namespace BuildGate

/-- The runs that were made, and whether the last one succeeded. -/
structure Outcome where
  calls : List ToolCall
  result : Except ToolError Unit

def commandText (name : String) (arguments : List String) : String :=
  name ++ " " ++ " ".intercalate arguments

/-- Makes runs one after the other until one fails. -/
def runSteps (tools : Tools) (name : String) (directory : Path) (earlier : List ToolCall) :
    List (List String) → Outcome
  | [] => ⟨earlier, .ok ()⟩
  | arguments :: steps =>
    let call : ToolCall := ⟨arguments, directory⟩
    let code := tools.exitCode earlier call
    if code = 0 then runSteps tools name directory (earlier ++ [call]) steps
    else ⟨earlier ++ [call], .error (.failed (commandText name arguments) code)⟩

/-- Makes runs of a tool, if it can be found. -/
def runTool (tools : Tools) (name : String) (steps : List (List String)) (directory : Path) :
    Outcome :=
  if tools.available name then runSteps tools name directory [] steps
  else ⟨[], .error (.missing name)⟩

def packageManager : String := "npm"

/-- The runs of the gate, in order. -/
def steps : List (List String) :=
  [["i", "--no-fund", "--no-audit"], ["run", "typecheck"], ["run", "build"]]

def pass (tools : Tools) (directory : Path) : Outcome :=
  runTool tools packageManager steps directory

end BuildGate

end WebScaffold
