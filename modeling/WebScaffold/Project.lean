import WebScaffold.BuildGate
import WebScaffold.Scaffold
import WebScaffold.Settings.Basic
import WebScaffold.Synthesis
import WebScaffold.Yaml.Value

/-!
# Projects

How a project is made from an idea or from a document: a validated specification, its repairs, the
plan, the files, and the build gate if it is asked for. Whatever the source, only a specification
that passed both stages of validation is planned.
-/

namespace WebScaffold

inductive RunError where
  | validation (cause : ValidationError)
  | synthesis (attempts : Nat) (lastError : String)
  | scaffold (cause : ScaffoldError)
  | invalidTarget (name : String)
  | tool (cause : ToolError)
  | model (cause : GeneratorError)
  | file (cause : FileError)
  | yaml
  | json (cause : Json.ReadError)
deriving DecidableEq, Repr

namespace RunError

def message : RunError → String
  | validation cause => cause.message
  | synthesis attempts lastError =>
    s!"spec synthesis failed after {attempts} attempt(s): {lastError}"
  | scaffold cause => cause.message
  | invalidTarget name =>
    "invalid deploy target '" ++ name ++ "': expected vercel or github_pages"
  | tool cause => cause.message
  | model cause => cause.message
  | file cause => cause.message
  | yaml => "invalid YAML"
  | json cause => cause.message

/-- The message with that of its cause, where the cause is kept apart. -/
def chain : RunError → String
  | scaffold (.write path cause) =>
    (ScaffoldError.write path cause).message ++ ": " ++ cause.message
  | error => error.message

end RunError

def DeployTarget.parse (name : String) : Except RunError DeployTarget :=
  match Variant.ofName? name with
  | some target => .ok target
  | none => .error (.invalidTarget name)

/-- Where a specification comes from. -/
inductive ProjectSource where
  | idea (idea : String) (hints : Table Json)
  | document (path : Path)

/-- What is asked for: a project from a source, in a directory. -/
structure ProjectOrder where
  source : ProjectSource
  outDirectory : Path
  /-- Takes the place of the target that the specification names. -/
  target : Option DeployTarget := none
  /-- Whether to pass the build gate. -/
  install : Bool := false

/-- A project that was made. -/
structure Project where
  spec : AppSpec
  plan : ProjectPlan
  written : WrittenProject

def Settings.synthesisLimits (settings : Settings) : SynthesisLimits :=
  ⟨1000 * settings.timeoutSeconds, settings.correctionBackoff⟩

namespace Project

/-! ## Documents -/

def isYaml (path : Path) : Bool :=
  path.extension?.any fun extension ↦
    String.ofList (extension.toList.map Char.toLower) ∈ ["yaml", "yml"]

/-- The value of a document: Yaml by the extension of its path, or else Json. -/
def parseDocument (path : Path) (text : String) : Except RunError Json :=
  if isYaml path then
    match Yaml.parse? text with
    | some value => .ok value
    | none => .error .yaml
  else (Json.parse text).mapError .json

def loadDocument (path : Path) (disk : Disk) : Except RunError Json := do
  let text ← (disk.readText path).mapError .file
  parseDocument path text

/-- The specification in a document, whose render mode is put right first. -/
def validateDocument (document : Json) : Noted (Except ValidationError AppSpec) := do
  let draft ← Draft.repair document
  return AppSpec.validate draft

/-! ## Steps -/

/-- The specification of an idea; there has to be a generator for that. -/
def specOfIdea (generator? : Option Generator) (limits : SynthesisLimits) (idea : String)
    (hints : Table Json) : Run RunError AppSpec := do
  match generator? with
  | none => throw (.model (.config "no generation backend configured"))
  | some generator =>
    let outcome ← Run.noting (specFromIdea generator limits idea hints)
    Run.ofExcept (outcome.result.mapError (.synthesis Synthesis.maximumAttempts))

def specOf (generator? : Option Generator) (limits : SynthesisLimits) :
    ProjectSource → Run RunError AppSpec
  | .idea idea hints => specOfIdea generator? limits idea hints
  | .document path => do
    let document ← Run.reading (loadDocument path)
    let result ← Run.noting (validateDocument document)
    Run.ofExcept (result.mapError .validation)

/-- The specification that is planned: with the target that was asked for, and repaired. -/
def finishSpec (target? : Option DeployTarget) (spec : AppSpec) : Noted AppSpec := do
  let spec ← spec.overrideTarget target?
  spec.repair

/-- The specification that is planned, if it can be scaffolded. -/
def prepare (target? : Option DeployTarget) (spec : AppSpec) : Run RunError AppSpec := do
  let spec ← Run.noting (finishSpec target? spec)
  Run.ofExcept ((Scaffold.checkBlueprint spec.blueprint).mapError .scaffold)
  return spec

/-- What the making of a project uses besides the disk. -/
structure Setup where
  limits : SynthesisLimits
  generator : Option Generator
  tools : Tools

/-- The specification that is planned for an order. -/
def plannedSpec (setup : Setup) (order : ProjectOrder) : Run RunError AppSpec := do
  let spec ← specOf setup.generator setup.limits order.source
  prepare order.target spec

def make (setup : Setup) (order : ProjectOrder) (conditions : Scaffold.Conditions := .usual) :
    Run RunError Project := do
  let spec ← plannedSpec setup order
  let plan := spec.plan
  let written ← Run.mapError .scaffold (scaffold spec plan order.outDirectory conditions)
  if order.install then
    Run.ofExcept ((BuildGate.pass setup.tools order.outDirectory).result.mapError .tool)
  return ⟨spec, plan, written⟩

end Project

end WebScaffold
