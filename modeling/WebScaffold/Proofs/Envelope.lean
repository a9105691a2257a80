import WebScaffold.Proofs.Planned
import WebScaffold.Proofs.Spelling

/-!
# Answers in envelopes

An answer may hold its payload in a member, as an object or as a text that spells it. The members
are looked at in turn, and the first that yields anything decides. A text yields whatever it spells,
a number as well as an object; so a payload behind such a text is passed over.
-/

namespace WebScaffold.Synthesis

open Json

/-- A member holds a value: as it is, or as a text that spells it. -/
def Carries (held v : Json) : Prop :=
  held = v ∨ ∃ text, held = .string text ∧ Spells v text.toList

/-- What the member under a key yields, if there is one and it yields anything. -/
def yield? (key : String) (members : List (String × Json)) : Option Json :=
  (members.lookup key).bind payload?

section

variable {members parts : List (String × Json)} {held v : Json} {key : String}

theorem payload?_of_carries (h : Carries held (.object parts)) :
    payload? held = some (.object parts) := by
  rcases h with rfl | ⟨text, rfl, hspells⟩
  · rfl
  · rw [payload?, hspells.readLoosely]
    rfl

theorem yield?_of_carries (hheld : members.lookup key = some held)
    (h : Carries held (.object parts)) : yield? key members = some (.object parts) := by
  rw [yield?, hheld, Option.bind_some, payload?_of_carries h]

theorem openEnvelope_object (hsealed : members.lookup "blueprint" = none) :
    openEnvelope (.object members) =
      ((yield? "code" members).or (yield? "content" members)).getD (.object members) := by
  have hmissing : ¬((members.lookup "blueprint").isSome = true) := by simp [hsealed]
  rw [openEnvelope, if_neg hmissing]
  unfold payloadMembers yield?
  rw [List.findSome?_cons, List.findSome?_cons, List.findSome?_nil]
  cases (members.lookup "code").bind payload? with
  | some stray => rfl
  | none => cases (members.lookup "content").bind payload? <;> rfl

theorem openEnvelope_of_code (hsealed : members.lookup "blueprint" = none)
    (hcode : yield? "code" members = some v) : openEnvelope (.object members) = v := by
  rw [openEnvelope_object hsealed, hcode, Option.some_or, Option.getD_some]

/-- Nothing but the value itself may be yielded in front of it. -/
theorem openEnvelope_of_content_iff (hsealed : members.lookup "blueprint" = none)
    (hcontent : yield? "content" members = some v) :
    openEnvelope (.object members) = v ↔ ∀ stray ∈ yield? "code" members, stray = v := by
  rw [openEnvelope_object hsealed, hcontent]
  cases yield? "code" members with
  | none => simp
  | some stray => simp

/-- Answers that are opened alike are accepted alike. -/
theorem accept_congr {left right : Json} (h : openEnvelope left = openEnvelope right) :
    accept left = accept right := by
  unfold accept
  rw [h]

theorem tryOnce_of_answer {generator : Generator} {limits : SynthesisLimits}
    {earlier : List CompletionRequest} {request : CompletionRequest} {answer : Json}
    {warnings : List Warning}
    (h : generator.complete earlier request = ⟨.answer answer, warnings⟩) :
    tryOnce generator limits earlier request =
      ⟨⟨earlier ++ [request], (accept answer).value⟩,
        warnings ++ (accept answer).warnings⟩ := by
  calc tryOnce generator limits earlier request
      = ⟨⟨earlier ++ [request], (accept answer).value⟩,
          warnings ++ ((accept answer).warnings ++ [])⟩ := by rw [tryOnce, h]; rfl
    _ = _ := by rw [List.append_nil]

end

/-- An answer that is no envelope is taken as it is. An envelope is opened to the object with a
blueprint that it carries in the member `code`, and to the one in the member `content` exactly when
`code` yields nothing else. An attempt then comes to the same for the envelope as for what is in
it. -/
theorem openEnvelope_carried {parts members : List (String × Json)} {held : Json}
    (hopen : (parts.lookup "blueprint").isSome) (hsealed : members.lookup "blueprint" = none)
    (hcarries : Carries held (.object parts)) :
    let payload : Json := .object parts
    let envelope : Json := .object members
    (∀ v : Json, (∀ others, v = .object others → (others.lookup "blueprint").isSome) →
      openEnvelope v = v) ∧
    (members.lookup "code" = some held → openEnvelope envelope = payload) ∧
    (members.lookup "content" = some held →
      (openEnvelope envelope = payload ↔
        ∀ stray ∈ (members.lookup "code").bind payload?, stray = payload)) ∧
    (openEnvelope envelope = payload →
      ∀ generator other : Generator, ∀ limits earlier request warnings,
        generator.complete earlier request = ⟨.answer envelope, warnings⟩ →
        other.complete earlier request = ⟨.answer payload, warnings⟩ →
          tryOnce generator limits earlier request = tryOnce other limits earlier request) := by
  intro payload envelope
  have hself (v : Json) (hv : ∀ others, v = .object others → (others.lookup "blueprint").isSome) :
      openEnvelope v = v := Project.openEnvelope_eq_self hv
  refine ⟨hself, ?_, ?_, ?_⟩
  · intro hcode
    exact openEnvelope_of_code hsealed (yield?_of_carries hcode hcarries)
  · intro hcontent
    exact openEnvelope_of_content_iff hsealed (yield?_of_carries hcontent hcarries)
  · intro hopened generator other limits earlier request warnings henvelope hpayload
    have hpayloadOpen : openEnvelope payload = payload := by
      apply hself
      rintro others hothers
      obtain rfl := Json.object.inj hothers
      exact hopen
    have haccept : accept envelope = accept payload :=
      accept_congr (hopened.trans hpayloadOpen.symm)
    rw [tryOnce_of_answer henvelope, tryOnce_of_answer hpayload, haccept]

def servedPayload : Json :=
  .object [("blueprint", .string "web_app")]

/-- The payload as it would be shown in a chat. -/
def fencedText : String :=
  "```json\n" ++ r#"{"blueprint": "web_app"}"# ++ "\n```\n"

def fencedEnvelope : Json :=
  .object [("code", .string fencedText), ("content", .string "An app for the web.")]

/-- An envelope with prose in the place of code. -/
def annotatedEnvelope : Json :=
  .object [("code", .string "none"), ("content", servedPayload)]

theorem fencedText_spells : Spells servedPayload fencedText.toList := by
  have hshape : fencedText.toList = [] ++ (fence ++ ("json".toList ++ '\n' ::
      ((r#"{"blueprint": "web_app"}"# ++ "\n").toList ++ (fence ++ ['\n'])))) := rfl
  rw [hshape]
  exact .fenced (by simp) (by decide) (by decide +kernel) (.inr rfl) (by simp [Text.isBlank])

theorem fencedEnvelope_carried :
    openEnvelope fencedEnvelope = servedPayload ∧ openEnvelope annotatedEnvelope = servedPayload ∧
      tryOnce ⟨"fenced", fun _ _ ↦ pure (.answer fencedEnvelope)⟩ {} [] ⟨"", "", none, none⟩ =
        tryOnce ⟨"bare", fun _ _ ↦ pure (.answer servedPayload)⟩ {} [] ⟨"", "", none, none⟩ := by
  have hcode := @openEnvelope_carried [("blueprint", .string "web_app")]
    [("code", .string fencedText), ("content", .string "An app for the web.")] _
    (by decide) (by decide) (.inr ⟨fencedText, rfl, fencedText_spells⟩)
  have hcontent := @openEnvelope_carried [("blueprint", .string "web_app")]
    [("code", .string "none"), ("content", servedPayload)] _ (by decide) (by decide) (.inl rfl)
  have hopened := hcode.2.1 rfl
  exact ⟨hopened, (hcontent.2.2.1 rfl).2 (by decide),
    hcode.2.2.2 hopened _ _ _ _ _ _ rfl rfl⟩

/-- An envelope with a status in the place of code. -/
def strayEnvelope : Json :=
  .object [("code", .string "200"), ("content", servedPayload)]

/-- A status is taken for the payload, although it is no object and the payload stands behind it. -/
theorem openEnvelope_strayEnvelope :
    (∃ held, strayEnvelope.member? "content" = some held ∧ Carries held servedPayload) ∧
      (∀ held, strayEnvelope.member? "code" = some held → ∀ parts, ¬Carries held (.object parts)) ∧
      openEnvelope strayEnvelope ≠ servedPayload := by
  have hopened : openEnvelope strayEnvelope = .number (.integer 200) := rfl
  refine ⟨⟨servedPayload, rfl, .inl rfl⟩, ?_, ?_⟩
  · rintro held hheld parts hcarries
    obtain rfl := Option.some.inj hheld
    have hyields : payload? (.string "200") = some (.number (.integer 200)) := rfl
    have hpayload := (payload?_of_carries hcarries).symm.trans hyields
    simp at hpayload
  · rw [hopened]
    decide

end WebScaffold.Synthesis
