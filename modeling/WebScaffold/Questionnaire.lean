import WebScaffold.Project
import WebScaffold.Text.Blank
import WebScaffold.Text.Case

/-!
# The questionnaire

The questions that are asked when an app is made without an idea or a specification at hand. A
question that needs an answer is asked again until there is one, a choice until it is one of those
offered; every time a line of the input is used up.
-/

namespace WebScaffold

/-- A line of the input; `none` for one that is not a text. -/
abbrev InputLine := Option String

inductive QuestionError where
  | inputClosed (question : String)
  | notText
  | target (cause : RunError)
deriving DecidableEq, Repr

def QuestionError.message : QuestionError → String
  | inputClosed question => "input closed while asking: " ++ question
  | notText => "stream did not contain valid UTF-8"
  | target cause => cause.message

/-- What was said, the lines that are left, and the answer. -/
structure Asked (α : Type) where
  transcript : String
  rest : List InputLine
  result : Except QuestionError α

/-- A question, or several in a row, put to the lines of an input. -/
def Question (α : Type) := List InputLine → Asked α

namespace Question

variable {α β : Type}

/-- Takes what was found out without a question. -/
def ofExcept (found : Except QuestionError α) : Question α :=
  fun lines ↦ ⟨"", lines, found⟩

/-- Goes on with further questions once there is an answer. -/
def andThen (question : Question α) (next : α → Question β) : Question β := fun lines ↦
  let asked := question lines
  match asked.result with
  | .error error => ⟨asked.transcript, asked.rest, .error error⟩
  | .ok a =>
    let more := next a asked.rest
    ⟨asked.transcript ++ more.transcript, more.rest, more.result⟩

instance : Monad Question where
  pure a := ofExcept (.ok a)
  bind := andThen

end Question

namespace Questionnaire

/-- The text that asks for a line; the default is shown unless it is empty. -/
def promptText (question : String) (default? : Option String) : String :=
  match default? with
  | some usual => if usual = "" then question ++ ": " else question ++ " [" ++ usual ++ "]: "
  | none => question ++ ": "

/-- Asks for a line. A blank one stands for the default, if there is one. -/
def requestLine (question : String) (default? : Option String) : Question String
  | [] => ⟨promptText question default?, [], .error (.inputClosed question)⟩
  | none :: rest => ⟨promptText question default?, rest, .error .notText⟩
  | some line :: rest =>
    let answer := Text.trim line
    if answer ≠ "" then ⟨promptText question default?, rest, .ok answer⟩
    else
      match default? with
      | some usual => ⟨promptText question default?, rest, .ok usual⟩
      | none =>
        let again := requestLine question default? rest
        ⟨promptText question default? ++ "An answer is required.\n" ++ again.transcript,
          again.rest, again.result⟩

/-- A question with its choices. -/
def choiceQuestion (question : String) (choices : List String) : String :=
  question ++ " (" ++ "/".intercalate choices ++ ")"

/-- The choice that a line makes; case does not count. -/
def choiceOf (usual line : String) : String :=
  Text.lower (if Text.trim line = "" then usual else Text.trim line)

/-- Asks for one of several choices. -/
def requestChoice (question : String) (choices : List String) (usual : String) : Question String
  | [] =>
    ⟨promptText (choiceQuestion question choices) (some usual), [],
      .error (.inputClosed (choiceQuestion question choices))⟩
  | none :: rest =>
    ⟨promptText (choiceQuestion question choices) (some usual), rest, .error .notText⟩
  | some line :: rest =>
    let asking := promptText (choiceQuestion question choices) (some usual)
    let answer := choiceOf usual line
    if answer ∈ choices then ⟨asking, rest, .ok answer⟩
    else
      let again := requestChoice question choices usual rest
      ⟨asking ++ "Please answer one of: " ++ ", ".intercalate choices ++ "\n" ++ again.transcript,
        again.rest, again.result⟩

/-! ## The questions -/

def defaultDirectory : String := "out/app"

def platformChoices : List String :=
  ["web", "desktop"]

def databaseChoices : List String :=
  ["none", "neon", "turso", "supabase"]

def signInChoices : List String :=
  ["none", "email_magic", "google_oauth"]

def targetChoices : List String :=
  ["github_pages", "vercel"]

structure Answers where
  idea : String
  outDirectory : String
  target : DeployTarget
  /-- What a generator is told besides the idea. -/
  hints : Table Json
deriving DecidableEq, Repr

/-- The parts between commas, without blanks around them; empty parts do not count. -/
def splitFeatures (line : String) : List String :=
  (((Text.pieces (· == ',') line.toList).map Text.trimChars).filter (!·.isEmpty)).map String.ofList

def blueprintOf (platform : String) : Blueprint :=
  if platform = "desktop" then .electronApp else .webApp

def ask : Question Answers := do
  let idea ← requestLine "Describe your app idea" none
  let platform ← requestChoice "Platform" platformChoices "web"
  let auth ← requestChoice "Sign-in" signInChoices "none"
  let database ← requestChoice "Database" databaseChoices "none"
  let features ← requestLine "Key features (comma separated)" (some "")
  let outDirectory ← requestLine "Output directory" (some defaultDirectory)
  let deploy ← requestChoice "Deploy target" targetChoices "github_pages"
  let target ← Question.ofExcept ((DeployTarget.parse deploy).mapError .target)
  return {
    idea
    outDirectory
    target
    hints := Table.ofList
      [("blueprint", .string (Variant.name (blueprintOf platform))), ("auth", .string auth),
        ("database", .string database), ("features", Json.ofStrings (splitFeatures features)),
        ("deploy", .string deploy)] }

/-! ## The lines of an input -/

/-- The lines of an input, each up to its line break; the last one may lack it. -/
def splitLines : List UInt8 → List (List UInt8)
  | [] => []
  | byte :: bytes =>
    if byte = 10 then [byte] :: splitLines bytes
    else
      match splitLines bytes with
      | [] => [[byte]]
      | line :: lines => (byte :: line) :: lines

def inputLines (bytes : List UInt8) : List InputLine :=
  (splitLines bytes).map fun line ↦ String.fromUTF8? ⟨line.toArray⟩

end Questionnaire

end WebScaffold
