import WebScaffold.Project

/-!
# Arguments

What the arguments and the environment ask for. Arguments are taken from left to right: an option
may be given once, with its value in the same argument or in the next one, and a value that stands
alone does not begin with a hyphen. Asking for the version or for help ends the reading; whatever is
wrong before that is an error of usage. The environment fills in for missing options.
-/

namespace WebScaffold.CommandLine

/-- The options as they are given; the texts are not interpreted any further. -/
structure Options where
  idea : Option String := none
  spec : Option Path := none
  outDirectory : Option Path := none
  target : Option DeployTarget := none
  provider : Option Provider := none
  model : Option String := none
  settings : Option Path := none
  install : Bool := false
  json : Bool := false
  openaiKey : Option String := none
  openaiModel : Option String := none
  openaiBaseUrl : Option String := none
  claudeModel : Option String := none
deriving DecidableEq, Repr

inductive Request where
  | run (options : Options)
  | version
  | help
  | usageError
deriving DecidableEq, Repr

/-! ## Values -/

/-- A path that is given as a value, which is never empty. -/
def path? (text : String) : Option Path :=
  if text = "" then none else some ⟨text⟩

/-- The value of an option that had none yet. -/
def once {α : Type} (current : Option α) (new? : Option α) : Option (Option α) :=
  if current.isSome then none else new?.map some

/-- The options with one more value; `none` for an unknown name, a second value or a wrong one. -/
def setValue? (options : Options) (name value : String) : Option Options := do
  match name with
  | "idea" => return { options with idea := ← once options.idea (some value) }
  | "spec" => return { options with spec := ← once options.spec (path? value) }
  | "out" => return { options with outDirectory := ← once options.outDirectory (path? value) }
  | "deploy" => return { options with target := ← once options.target (Variant.ofName? value) }
  | "provider" =>
    return { options with provider := ← once options.provider (Provider.parse value).toOption }
  | "model" => return { options with model := ← once options.model (some value) }
  | "config" => return { options with settings := ← once options.settings (path? value) }
  | "openai-api-key" => return { options with openaiKey := ← once options.openaiKey (some value) }
  | "openai-model" => return { options with openaiModel := ← once options.openaiModel (some value) }
  | "openai-base-url" =>
    return { options with openaiBaseUrl := ← once options.openaiBaseUrl (some value) }
  | "claude-model" => return { options with claudeModel := ← once options.claudeModel (some value) }
  | _ => none

/-- The names of the options that take a value. -/
def valueOptions : List String :=
  ["idea", "spec", "out", "deploy", "provider", "model", "config", "openai-api-key",
    "openai-model", "openai-base-url", "claude-model"]

/-! ## Flags -/

inductive Flag where
  | install
  | json
  | version
  | help
deriving DecidableEq, Repr

def longFlag? : String → Option Flag
  | "install" => some .install
  | "json" => some .json
  | "version" => some .version
  | "help" => some .help
  | _ => none

def shortFlag? : Char → Option Flag
  | 'j' => some .json
  | 'V' => some .version
  | 'h' => some .help
  | _ => none

/-- What a flag comes to: other options, or a request that ends the reading. -/
def applyFlag (options : Options) : Flag → Except Request Options
  | .install =>
    if options.install then .error .usageError else .ok { options with install := true }
  | .json => if options.json then .error .usageError else .ok { options with json := true }
  | .version => .error .version
  | .help => .error .help

/-- The flags of an argument with a single hyphen, one letter each. -/
def applyShort (options : Options) : List Char → Except Request Options
  | [] => .ok options
  | c :: cs =>
    match shortFlag? c with
    | some flag => do
      let options ← applyFlag options flag
      applyShort options cs
    | none => .error .usageError

/-! ## Reading -/

/-- What kind of argument a text is. -/
inductive Argument where
  | long (name : String) (value? : Option String)
  | short (letters : List Char)
  | separator
  | bare
deriving DecidableEq, Repr

def classify (text : String) : Argument :=
  match text.toList with
  | ['-', '-'] => .separator
  | '-' :: '-' :: cs =>
    match Text.cutAt? ['='] cs with
    | some (name, value) => .long (String.ofList name) (some (String.ofList value))
    | none => .long (String.ofList cs) none
  | '-' :: c :: cs => .short (c :: cs)
  | _ => .bare

/-- Whether a text can be the value of the option before it. -/
def isValue (text : String) : Bool :=
  classify text == .bare

def setValue (options : Options) (name value : String) : Except Request Options :=
  match setValue? options name value with
  | some options => .ok options
  | none => .error .usageError

/-- Reads the arguments; the error is a request that ends the reading before its end. -/
def readArguments (options : Options) : List String → Except Request Options
  | [] => .ok options
  | text :: rest =>
    match classify text, rest with
    | .separator, [] => .ok options
    | .separator, _ :: _ => .error .usageError
    | .bare, _ => .error .usageError
    | .short letters, rest => do
      let options ← applyShort options letters
      readArguments options rest
    | .long name (some value), rest => do
      let options ← setValue options name value
      readArguments options rest
    | .long name none, rest =>
      match longFlag? name, rest with
      | some flag, rest => do
        let options ← applyFlag options flag
        readArguments options rest
      | none, value :: rest =>
        if name ∈ valueOptions ∧ isValue value then do
          let options ← setValue options name value
          readArguments options rest
        else .error .usageError
      | none, [] => .error .usageError

/-! ## Environment -/

/-- The options with what the environment says about missing ones. -/
def fillFrom (environment : List (String × String)) (options : Options) :
    Except Request Options := do
  let lookUp (name : String) : Option String := environment.lookup name
  let provider ←
    match options.provider, lookUp "MODEL_PROVIDER" with
    | none, some text =>
      match Provider.parse text with
      | .ok provider => pure (some provider)
      | .error _ => throw Request.usageError
    | given, _ => pure given
  return { options with
    provider
    openaiKey := options.openaiKey.or (lookUp "OPENAI_API_KEY")
    openaiModel := options.openaiModel.or (lookUp "OPENAI_MODEL")
    openaiBaseUrl := options.openaiBaseUrl.or (lookUp "OPENAI_BASE_URL")
    claudeModel := options.claudeModel.or (lookUp "CLAUDE_MODEL") }

/-- What is asked for. An idea and a specification cannot both be given. -/
def request (arguments : List String) (environment : List (String × String)) : Request :=
  let read : Except Request Options := do
    let options ← readArguments {} arguments
    if options.idea.isSome && options.spec.isSome then throw Request.usageError
    fillFrom environment options
  match read with
  | .ok options => .run options
  | .error other => other

end WebScaffold.CommandLine
