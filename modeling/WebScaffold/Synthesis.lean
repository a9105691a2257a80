import WebScaffold.Decimal.Seconds
import WebScaffold.Generator.Basic
import WebScaffold.Json.Printer
import WebScaffold.Spec.Repair
import WebScaffold.Spec.Validate

/-!
# Synthesis

From an idea to a specification by way of a generator that cannot be relied on. Its draft is
repaired and validated; if that fails, or there is no draft, the generator is told why and asked to
correct itself, once. What fails then fails for good.
-/

namespace WebScaffold

structure SynthesisLimits where
  /-- How long a generator may take, in milliseconds. -/
  timeout : Nat := 120000
  /-- The pause before the correction, in milliseconds. -/
  backoff : Nat := 1000
deriving DecidableEq, Repr

/-- What is asked of a generator. -/
structure Prompt where
  system : String
  user : String
deriving DecidableEq, Repr

namespace Synthesis

def maximumAttempts : Nat := 2

def systemText : String :=
  " ".intercalate
    ["You are an expert product and technical specifier.",
      "Output ONLY valid JSON matching the provided JSON Schema, with no extra keys.",
      "If uncertain, choose sensible defaults from the enum values.",
      "Keep arrays minimal but non-empty where the schema requires items.",
      "If deploy.target is github_pages, set runtime.renderMode to \"ssg\" and use no server routes.",
      "If deploy.target is vercel and features.auth is not none, set runtime.renderMode to \"ssr\".",
      "If a database is wanted but github_pages is chosen, set runtime.database to turso or supabase."]

/-- The prompt for a draft: the schema, the hints and the idea, each between two marking lines. -/
def promptFor (idea : String) (hints : Table Json) (schema : Json) : Prompt where
  system := systemText
  user :=
    "\n".intercalate
      ["JSON_SCHEMA_START", schema.pretty, "JSON_SCHEMA_END", "HINTS_START",
        (Json.object hints).pretty, "HINTS_END", "IDEA_START", idea, "IDEA_END"]

/-- The prompt again, followed by what was wrong with the answer to it. -/
def correctionText (user error : String) : String :=
  user ++ "\nPrevious output failed validation: " ++ error ++
    "\nCorrect the JSON strictly to satisfy the schema. Output only JSON."

/-! ## Envelopes -/

/-- The payload of a member: an object, or a text that spells a value. -/
def payload? : Json → Option Json
  | .string text => (Json.readLoosely text).toOption
  | .object members => some (.object members)
  | _ => none

/-- The members that an envelope may carry its payload in. -/
def payloadMembers : List String :=
  ["code", "content"]

/-- Takes an answer out of its envelope; an answer with a blueprint is not in one. -/
def openEnvelope (answer : Json) : Json :=
  match answer with
  | .object members =>
    if (members.lookup "blueprint").isSome then answer
    else (payloadMembers.findSome? fun key ↦ (members.lookup key).bind payload?).getD answer
  | _ => answer

/-! ## Attempts -/

def draftRequest (prompt : Prompt) : CompletionRequest :=
  { system := prompt.system, user := prompt.user, schema := some AppSpec.schemaDocument }

def correctionRequest (prompt : Prompt) (error : String) : CompletionRequest :=
  { system := prompt.system, user := correctionText prompt.user error
    schema := some AppSpec.schemaDocument, maxRetries := some 1 }

/-- The specification in an answer, or what is wrong with it. -/
def accept (answer : Json) : Noted (Except String AppSpec) := do
  let draft ← Draft.repair (openEnvelope answer)
  match AppSpec.ofDocument draft with
  | .error error => return .error error.message
  | .ok spec =>
    let spec ← spec.repair
    match spec.checkRules with
    | .error error => return .error error.message
    | .ok () => return .ok spec

/-- What a reply comes to. -/
def judge (config : SynthesisLimits) : Completion → Noted (Except String AppSpec)
  | .timeout => return .error ("generation timed out after " ++ secondsText config.timeout ++ "s")
  | .failure error => return .error ("generation failed: " ++ error.message)
  | .answer value => accept value

/-- The requests that were made so far, and what came of the last one. -/
structure Outcome where
  requests : List CompletionRequest
  result : Except String AppSpec

/-- One call of the generator. -/
def tryOnce (generator : Generator) (config : SynthesisLimits) (earlier : List CompletionRequest)
    (request : CompletionRequest) : Noted Outcome := do
  let completion ← generator.complete earlier request
  let result ← judge config completion
  return ⟨earlier ++ [request], result⟩

end Synthesis

open Synthesis in
def specFromIdea (generator : Generator) (config : SynthesisLimits) (idea : String)
    (hints : Table Json) : Noted Synthesis.Outcome := do
  let prompt := promptFor idea hints AppSpec.schemaDocument
  let first ← tryOnce generator config [] (draftRequest prompt)
  match first.result with
  | .ok _ => return first
  | .error error => do
    Noted.warn "draft rejected, requesting one correction" [("error", error)]
    let second ← tryOnce generator config first.requests (correctionRequest prompt error)
    match second.result with
    | .ok _ => return second
    | .error error => do
      Noted.warn "correction rejected" [("error", error)]
      return second

end WebScaffold
