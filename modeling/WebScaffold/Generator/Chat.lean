import WebScaffold.Generator.Basic
import WebScaffold.Json.Typed

/-!
# The chat generator

A generator behind a chat completion service. With a schema it first asks for an answer of that
structure and, if this fails for whatever reason, once more for any object; such a pair of requests
is one attempt. Failed attempts are repeated as often as the request allows.
-/

namespace WebScaffold

structure HttpRequest where
  method : String
  url : String
  authorization : String
  body : Json
deriving DecidableEq, Repr

structure HttpReply where
  status : Nat
  reason : String
  body : String
deriving DecidableEq, Repr

/-- What answers requests, if it can be reached; a reply may depend on all earlier requests. -/
abbrev Transport := (earlier : List HttpRequest) → HttpRequest → Option HttpReply

structure ChatConfig where
  apiKey : String
  model : String
  /-- The address of the service up to its version. -/
  baseUrl : String
  maxCompletionTokens : Nat
deriving DecidableEq, Repr

namespace Chat

open Json

def usualModel : String := "gpt-4o-mini"

def usualBaseUrl : String := "https://api.openai.com/v1"

def usualRetries : Nat := 2

def usualTokens : Nat := 8192

def backendName : String := "openai"

def configFor (apiKey : String) : ChatConfig :=
  ⟨apiKey, usualModel, usualBaseUrl, usualTokens⟩

/-- A service cannot be used without a key. -/
def checkKey (config : ChatConfig) : Except GeneratorError Unit :=
  if Text.trim config.apiKey = "" then .error (.config "OPENAI_API_KEY is not set") else .ok ()

def completionsUrl (config : ChatConfig) : String :=
  String.ofList (Text.dropTailWhile (· == '/') config.baseUrl.toList) ++ "/chat/completions"

/-! ## Requests -/

/-- How far the structure of an answer is forced. -/
inductive AnswerFormat where
  | schema (schema : Json)
  | anyObject
deriving DecidableEq, Repr

def AnswerFormat.encode : AnswerFormat → Json
  | schema wanted =>
    ofMembers
      [("type", .string "json_schema"),
        ("json_schema",
          ofMembers [("name", .string "AppSpec"), ("schema", wanted), ("strict", .bool true)])]
  | anyObject => ofMembers [("type", .string "json_object")]

def messageOf (role content : String) : Json :=
  ofMembers [("role", .string role), ("content", .string content)]

def body (config : ChatConfig) (request : CompletionRequest) (format : AnswerFormat) : Json :=
  ofMembers
    [("model", .string config.model),
      ("messages", .array [messageOf "system" request.system, messageOf "user" request.user]),
      ("response_format", format.encode),
      ("max_completion_tokens", ofNat config.maxCompletionTokens)]

def httpRequest (config : ChatConfig) (request : CompletionRequest) (format : AnswerFormat) :
    HttpRequest :=
  ⟨"POST", completionsUrl config, "Bearer " ++ config.apiKey, body config request format⟩

/-- A header cannot hold control characters. -/
def isSendable (request : HttpRequest) : Bool :=
  request.authorization.toList.all fun c ↦ c == '\t' || (0x20 ≤ c.toNat && c.toNat != 0x7F)

/-! ## Replies -/

def messageReader : RecordReader (Option String) :=
  { name := "ChoiceMessage"
    fields := [("content", fun cs ↦ do
      let (content, rest) ← optionReader textReader cs
      return (fun _ ↦ content, rest))]
    start := none
    required := [] }

def choiceReader : RecordReader (Option String) :=
  { name := "Choice"
    fields := [("message", fun cs ↦ do
      let (content, rest) ← messageReader.reader cs
      return (fun _ ↦ content, rest))]
    start := none
    required := ["message"] }

/-- The contents of the choices that a reply offers. -/
def replyReader : RecordReader (List (Option String)) :=
  { name := "ChatResponse"
    fields := [("choices", fun cs ↦ do
      let (choices, rest) ← listReader choiceReader.reader cs
      return (fun _ ↦ choices, rest))]
    start := []
    required := [] }

def isErrorStatus (status : Nat) : Bool :=
  400 ≤ status && status < 600

/-- A reply with one of these statuses has no body. -/
def bodylessStatuses : List Nat :=
  [204, 304]

/-- The answer in a reply: the content of the first choice, or an empty object without any. -/
def readReply (url : String) : Option HttpReply → Except GeneratorError Json
  | none => .error (.http (.noConnection url))
  | some reply =>
    if isErrorStatus reply.status then .error (.http (.status reply.status reply.reason url))
    else
      let body := if reply.status ∈ bodylessStatuses then "" else reply.body
      match parseWith replyReader.reader body with
      | .error _ => .error (.http .undecodable)
      | .ok choices => readAnswer ((choices.head?.bind id).getD "{}")

/-! ## Attempts -/

/-- What has been sent so far, and what came of the last request. -/
structure Exchange where
  sent : List HttpRequest
  result : Except GeneratorError Json

/-- Sends one request. -/
def send (config : ChatConfig) (transport : Transport) (request : CompletionRequest)
    (format : AnswerFormat) (sent : List HttpRequest) : Exchange :=
  let message := httpRequest config request format
  if isSendable message then
    ⟨sent ++ [message], readReply message.url (transport sent message)⟩
  else ⟨sent, .error (.http .unsendable)⟩

def tryFormats (config : ChatConfig) (transport : Transport) (request : CompletionRequest)
    (sent : List HttpRequest) : Exchange :=
  match request.schema with
  | none => send config transport request .anyObject sent
  | some schema =>
    let first := send config transport request (.schema schema) sent
    match first.result with
    | .ok _ => first
    | .error _ => send config transport request .anyObject first.sent

/-- Makes the attempt at the given place and, while it fails, up to `more` further ones. -/
def attemptsFrom (config : ChatConfig) (transport : Transport) (request : CompletionRequest) :
    (more place : Nat) → List HttpRequest → Noted Exchange
  | more, place, sent => do
    let exchange := tryFormats config transport request sent
    match exchange.result with
    | .ok _ => return exchange
    | .error error => do
      Noted.warn "openai completion attempt failed"
        [("attempt", toString place), ("error", error.message)]
      match more with
      | 0 => return ⟨exchange.sent, .error (.exhausted backendName (place + 1) error.message)⟩
      | more + 1 => attemptsFrom config transport request more (place + 1) exchange.sent

/-- All that is sent for a request, and what comes of it. -/
def complete (config : ChatConfig) (transport : Transport) (request : CompletionRequest) :
    Noted Exchange :=
  attemptsFrom config transport request (request.maxRetries.getD usualRetries) 0 []

/-- The service as a generator; each completion has a transport of its own. -/
def generator (config : ChatConfig) (transport : List CompletionRequest → Transport) :
    Generator where
  name := backendName
  complete earlier request := do
    let exchange ← complete config (transport earlier) request
    return .ofExcept exchange.result

end Chat

end WebScaffold
