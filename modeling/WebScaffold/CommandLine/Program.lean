import WebScaffold.CommandLine.Arguments
import WebScaffold.CommandLine.Summary
import WebScaffold.Questionnaire
import WebScaffold.Settings.Load

/-!
# The program

A run of the program from its arguments to its exit code. Settings are loaded first; then the source
is chosen, by the options or by asking; then the generator is made, if the source is an idea; then
the project is made. The first failure is told on one line, with the causes behind what was
attempted.
-/

namespace WebScaffold.CommandLine

def versionText : String := "appgen 0.1.0\n"

def helpText : String :=
  Text.lines
    ["Turn a product idea or an app spec into a runnable Next.js project", "",
      "Usage: appgen [OPTIONS]", "",
      "Options:",
      "      --idea <IDEA>          Product idea to synthesize an app spec from",
      "      --spec <SPEC>          App spec file (JSON, or YAML with a .yaml/.yml extension)",
      "      --out <OUT>            Directory to write the generated project into",
      "      --deploy <DEPLOY>      Override the deploy target (vercel | github_pages)",
      "      --provider <PROVIDER>  Generation backend (stub | openai | claude)",
      "      --model <MODEL>        Model name for the generation backend",
      "      --config <CONFIG>      Generation settings file (YAML)",
      "      --install              Run npm install, typecheck and build in the project",
      "  -j, --json                 Output a JSON run summary",
      "  -h, --help                 Print help",
      "  -V, --version              Print version"]

/-- What a run of the program leaves besides its files. -/
structure Exit where
  code : Nat
  output : String
  errors : String
deriving DecidableEq, Repr

/-! ## Settings -/

/-- The model that the environment names for a provider. -/
def providerModel (options : Options) : Provider → Option String
  | .openai => options.openaiModel
  | .claude => options.claudeModel
  | .stub => none

/-- The settings with what the options say instead. -/
def applyOptions (options : Options) (settings : Settings) : Settings :=
  let provider := options.provider.getD settings.provider
  { settings with
    provider
    model := (options.model.or (providerModel options provider)).or settings.model
    baseUrl := options.openaiBaseUrl.or settings.baseUrl }

def loadSettings (path : Path) (disk : Disk) : Except RunError Settings := do
  let text ← (disk.readText path).mapError .file
  match Settings.parse? text with
  | some settings => return settings
  | none => throw .yaml

/-- The settings of a run; the error is told as text. -/
def settingsOf (options : Options) : Run String Settings := do
  match options.settings with
  | none => return applyOptions options {}
  | some path =>
    let loaded ← Run.reading fun disk ↦
      (loadSettings path disk).mapError fun error ↦
        "failed to load config " ++ path.text ++ ": " ++ error.chain
    return applyOptions options loaded

/-! ## The source -/

/-- The order for a source that the options name, which need a directory as well. -/
def namedOrder (options : Options) (source : ProjectSource) : Except String ProjectOrder :=
  match options.outDirectory with
  | some outDirectory =>
    .ok { source, outDirectory, target := options.target, install := options.install }
  | none => .error "--out is required with --idea or --spec"

/-- The order from answers, with the options in the stead of what they say. -/
def answeredOrder (options : Options) (answers : Questionnaire.Answers) : ProjectOrder :=
  { source := .idea answers.idea answers.hints
    outDirectory := options.outDirectory.getD ⟨answers.outDirectory⟩
    target := options.target.or (some answers.target)
    install := options.install }

/-- What is asked for, and what was said to find it out. -/
def chooseOrder (options : Options) (input : List UInt8) :
    String × Except String ProjectOrder :=
  match options.idea, options.spec with
  | some idea, _ => ("", namedOrder options (.idea idea []))
  | none, some path => ("", namedOrder options (.document path))
  | none, none =>
    let asked := Questionnaire.ask (Questionnaire.inputLines input)
    (asked.transcript,
      match asked.result with
      | .ok answers => .ok (answeredOrder options answers)
      | .error error => .error error.message)

/-! ## Running -/

/-- The generator for a source; documents need none. -/
def generatorFor (options : Options) (settings : Settings) (around : Surroundings) :
    ProjectSource → Except String (Option Generator)
  | .document _ => .ok none
  | .idea _ _ =>
    match (settings.backend options.openaiKey).build around with
    | .ok generator => .ok (some generator)
    | .error error =>
      .error ("failed to start the " ++ Variant.name settings.provider ++ " backend: " ++
        error.message)

def makeProject (options : Options) (settings : Settings) (around : Surroundings) (tools : Tools)
    (order : ProjectOrder) : Run String String := do
  let generator ← Run.ofExcept (generatorFor options settings around order.source)
  let project ← Run.mapError
    (fun error ↦
      "failed to generate app in " ++ order.outDirectory.text ++ ": " ++ RunError.chain error)
    (Project.make ⟨settings.synthesisLimits, generator, tools⟩ order)
  return if options.json then project.summaryText else project.nextSteps options.install

def exitOf (transcript : String) : Except String String → Exit
  | .ok output => ⟨0, output, transcript⟩
  | .error reason => ⟨1, "", transcript ++ "error: " ++ reason ++ "\n"⟩

def runOptions (options : Options) (around : Surroundings) (tools : Tools) (input : List UInt8)
    (disk : Disk) : Noted (Exit × Disk) := do
  match ← (settingsOf options).outcome disk with
  | (.error reason, disk) => return (exitOf "" (.error reason), disk)
  | (.ok settings, disk) =>
    match chooseOrder options input with
    | (transcript, .error reason) => return (exitOf transcript (.error reason), disk)
    | (transcript, .ok order) =>
      let (result, disk) ← (makeProject options settings around tools order).outcome disk
      return (exitOf transcript result, disk)

/-- A run of the program. -/
def runProgram (arguments : List String) (environment : List (String × String))
    (around : Surroundings) (tools : Tools) (input : List UInt8) (disk : Disk) :
    Noted (Exit × Disk) :=
  match request arguments environment with
  | .run options => runOptions options around tools input disk
  | .version => pure (⟨0, versionText, ""⟩, disk)
  | .help => pure (⟨0, helpText, ""⟩, disk)
  | .usageError => pure (⟨2, "", "error: unexpected arguments; see --help\n"⟩, disk)

end WebScaffold.CommandLine
