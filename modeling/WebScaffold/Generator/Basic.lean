import WebScaffold.File.Error
import WebScaffold.Json.Loose
import WebScaffold.Noted
import WebScaffold.Spec.Wire

/-!
# Generators

A generator answers a prompt with a Json value, or fails, or does not answer in time. Nothing is
assumed about its answers; an answer may depend on all earlier requests.
-/

namespace WebScaffold

/-- A request for a Json value. The schema may be used to force the answer's structure, and the
number of retries bounds what the generator does on its own when something fails. -/
structure CompletionRequest where
  system : String
  user : String
  schema : Option Json := none
  maxRetries : Option Nat := none
deriving DecidableEq, Repr

namespace CompletionRequest

open Json

def encode (request : CompletionRequest) : Json :=
  ofMembers <|
    [("system", .string request.system), ("user", .string request.user)] ++
      optionalMember "schema" id request.schema ++
      optionalMember "max_retries" ofNat request.maxRetries

def recordType : RecordType :=
  ⟨"CompletionRequest", ["system", "user", "schema", "max_retries"]⟩

def decode : Json → Except Mismatch CompletionRequest :=
  decodeRecord recordType fun entries ↦
    (requiredField "system" decodeString entries).map CompletionRequest.mk
      |>.and (requiredField "user" decodeString entries)
      |>.and (optionalField "schema" .ok entries)
      |>.and (optionalField "max_retries" decodeWord entries)

end CompletionRequest

/-- Why an exchange with a server has no usable reply. -/
inductive HttpError where
  /-- The request cannot be sent as it is. -/
  | unsendable
  | noConnection (url : String)
  | status (code : Nat) (reason url : String)
  | undecodable
deriving DecidableEq, Repr

def HttpError.message : HttpError → String
  | unsendable => "builder error"
  | noConnection url => "error sending request for url (" ++ url ++ ")"
  | status code reason url =>
    let side := if code < 500 then "client" else "server"
    s!"HTTP status {side} error ({code} {reason}) for url ({url})"
  | undecodable => "error decoding response body"

inductive GeneratorError where
  | file (cause : FileError)
  | http (cause : HttpError)
  | parse (cause : Json.LooseError)
  | process (reason : String)
  | config (reason : String)
  | exhausted (backend : String) (attempts : Nat) (lastError : String)
deriving DecidableEq, Repr

def GeneratorError.message : GeneratorError → String
  | file cause => "I/O error: " ++ cause.message
  | http cause => "HTTP error: " ++ cause.message
  | parse cause => cause.message
  | process reason => "Process error: " ++ reason
  | config reason => "Backend configuration error: " ++ reason
  | exhausted backend attempts lastError =>
    s!"{backend} JSON completion failed after {attempts} attempt(s): {lastError}"

/-- The value of a text that a generator wrote. -/
def readAnswer (text : String) : Except GeneratorError Json :=
  (Json.readLoosely text).mapError .parse

/-- What a request comes to. -/
inductive Completion where
  | answer (value : Json)
  | failure (error : GeneratorError)
  | timeout
deriving DecidableEq, Repr

def Completion.ofExcept : Except GeneratorError Json → Completion
  | .ok value => .answer value
  | .error error => .failure error

structure Generator where
  name : String
  complete : (earlier : List CompletionRequest) → CompletionRequest → Noted Completion

end WebScaffold
