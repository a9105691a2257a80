import WebScaffold.Generator.Chat
import WebScaffold.Generator.Child
import WebScaffold.Generator.Offline

/-!
# Settings

Which generator to use and how, and the generator that the settings stand for. The key of a service
is never among the stored settings.
-/

namespace WebScaffold

inductive Provider where
  | stub
  | openai
  | claude
deriving DecidableEq, Repr

instance : Variant Provider where
  all := [.stub, .openai, .claude]
  name
    | .stub => "stub"
    | .openai => "openai"
    | .claude => "claude"
  mem_all a := by cases a <;> simp
  name_injective a b := by cases a <;> cases b <;> simp

/-- The provider that a text names; case and outer blanks do not count, and no name is the stub. -/
def Provider.parse (text : String) : Except GeneratorError Provider :=
  let name := String.ofList ((Text.trim text).toList.map Char.toLower)
  if name = "" then .ok .stub
  else
    match Variant.ofName? name with
    | some provider => .ok provider
    | none =>
      .error (.config ("unknown provider '" ++ name ++
        "'; supported providers: stub, openai, claude"))

structure Settings where
  provider : Provider := .stub
  model : Option String := none
  timeoutSeconds : Nat := 120
  /-- The pause before a correction is asked for, in milliseconds. -/
  correctionBackoff : Nat := 1000
  baseUrl : Option String := none
  maxCompletionTokens : Option Nat := none
deriving DecidableEq, Repr

open Json in
def Settings.encode (settings : Settings) : Json :=
  ofMembers <|
    [("provider", encodeVariant settings.provider)] ++
      optionalMember "model" .string settings.model ++
      [("timeout_secs", ofNat settings.timeoutSeconds),
        ("correction_backoff_ms", ofNat settings.correctionBackoff)] ++
      optionalMember "openai_base_url" .string settings.baseUrl ++
      optionalMember "max_completion_tokens" ofNat settings.maxCompletionTokens

/-- What a generator is made from: the stored settings that matter to it, and the key. -/
structure BackendSettings where
  provider : Provider := .stub
  model : Option String := none
  apiKey : Option String := none
  baseUrl : Option String := none
  maxCompletionTokens : Option Nat := none
deriving DecidableEq, Repr

def Settings.backend (settings : Settings) (apiKey : Option String) : BackendSettings :=
  ⟨settings.provider, settings.model, apiKey, settings.baseUrl, settings.maxCompletionTokens⟩

/-- What generators reach outside the program. -/
structure Surroundings where
  transport : List CompletionRequest → Transport
  runCommand : List CompletionRequest → ChildCall → Option ChildReply

/-- Surroundings without a network and without any command. -/
def Surroundings.isolated : Surroundings where
  transport _ _ _ := none
  runCommand _ _ := none

namespace BackendSettings

/-- The service that the settings describe. -/
def chatConfig (settings : BackendSettings) : ChatConfig :=
  let usual := Chat.configFor (settings.apiKey.getD "")
  { usual with
    model := settings.model.getD usual.model
    baseUrl := settings.baseUrl.getD usual.baseUrl
    maxCompletionTokens := settings.maxCompletionTokens.getD usual.maxCompletionTokens }

/-- The generator that the settings stand for. Only a service without a key is refused. -/
def build (settings : BackendSettings) (around : Surroundings) : Except GeneratorError Generator :=
  match settings.provider with
  | .stub => .ok Offline.generator
  | .claude => .ok (Child.generator settings.model around.runCommand)
  | .openai => do
    Chat.checkKey settings.chatConfig
    return Chat.generator settings.chatConfig around.transport

end BackendSettings

end WebScaffold
