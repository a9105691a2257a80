import Mathlib.Data.List.Forall2
import Mathlib.Tactic.Common
import WebScaffold.Proofs.Replies
import WebScaffold.Proofs.Table

/-!
# The course of a chat completion

The requests for a completion are numbered through all its attempts. What is asked at a place is
fixed by its number, and the place is reached exactly when every request before it has failed. So
the completion is told by what the requests come to: the first answer that can be read is taken and
nothing is asked behind it, or all attempts fail and the error of the last request is reported.
-/

namespace WebScaffold.Chat

open Json

/-- How many requests an attempt takes when each of them fails. -/
def attemptSize (request : CompletionRequest) : Nat :=
  if request.schema.isSome then 2 else 1

/-- What the request at a place asks for. A schema is forced by every other request. -/
def formatAt (request : CompletionRequest) (place : Nat) : AnswerFormat :=
  match request.schema with
  | some schema => if place % 2 = 0 then .schema schema else .anyObject
  | none => .anyObject

/-- The name that a request has for the format of its answer. -/
def formatName? (message : HttpRequest) : Option String :=
  ((message.body.member? "response_format").bind (·.member? "type")).bind string?

section

variable (config : ChatConfig) (transport : Transport) (request : CompletionRequest)

def requestAt (place : Nat) : HttpRequest :=
  httpRequest config request (formatAt request place)

/-- What was sent when a place is reached: the requests before it, unless they cannot be sent. -/
def sentBefore (place : Nat) : List HttpRequest :=
  ((List.range place).map (requestAt config request)).filter (isSendable ·)

/-- What the request at a place comes to when it is made. -/
def resultAt (place : Nat) : Except GeneratorError Json :=
  if isSendable (requestAt config request place) then
    readReply (requestAt config request place).url
      (transport (sentBefore config request place) (requestAt config request place))
  else .error (.http .unsendable)

/-- Neither the request at a place nor one from another place on up to it succeeds. -/
def FailsFrom (first behind : Nat) : Prop :=
  ∀ place, first ≤ place → place < behind →
    ∃ error, resultAt config transport request place = .error error

/-- The last request of an attempt. -/
def lastOf (attempt : Nat) : Nat :=
  attemptSize request * (attempt + 1) - 1

/-- A header can hold the text. -/
def IsHeaderText (text : String) : Prop :=
  ∀ c ∈ text.toList, c = '\t' ∨ 0x20 ≤ c.toNat ∧ c.toNat ≠ 0x7F

/-- A warning tells which attempt failed, and with which error it ended. -/
def WarnsOf (attempt : Nat) (warning : Warning) : Prop :=
  ∃ error, resultAt config transport request (lastOf request attempt) = .error error ∧
    warning = ⟨"openai completion attempt failed",
      [("attempt", toString attempt), ("error", error.message)]⟩

end

variable {config : ChatConfig} {transport : Transport} {request : CompletionRequest}

/-! ## One request -/

theorem formatName?_requestAt (place : Nat) :
    formatName? (requestAt config request place) =
      some (if request.schema.isSome ∧ place % 2 = 0 then "json_schema" else "json_object") := by
  have hname (format : AnswerFormat) : formatName? (httpRequest config request format) =
      (format.encode.member? "type").bind string? := by
    simp [formatName?, httpRequest, body, ofMembers, Table.lookup_ofList, Table.lookup_cons]
  have hschema (schema : Json) :
      (AnswerFormat.schema schema).encode.member? "type" = some (.string "json_schema") := by
    simp [AnswerFormat.encode, ofMembers, Table.lookup_ofList, Table.lookup_cons]
  have hobject : AnswerFormat.anyObject.encode.member? "type" = some (.string "json_object") := rfl
  rw [requestAt, hname, formatAt]
  cases request.schema with
  | none => simp [hobject]
  | some schema => by_cases hplace : place % 2 = 0 <;> simp [hplace, hschema, hobject]

/-- The key decides whether a request can be sent, whatever it asks for. -/
theorem isSendable_requestAt_iff (place : Nat) :
    isSendable (requestAt config request place) ↔ IsHeaderText config.apiKey := by
  have hbearer : ∀ c ∈ "Bearer ".toList, c = '\t' ∨ 0x20 ≤ c.toNat ∧ c.toNat ≠ 0x7F := by decide
  simp only [isSendable, requestAt, httpRequest, String.toList_append, List.all_append,
    Bool.and_eq_true, List.all_eq_true, Bool.or_eq_true, beq_iff_eq, decide_eq_true_eq, bne_iff_ne]
  exact ⟨And.right, And.intro hbearer⟩

theorem sentBefore_of_isHeaderText (hkey : IsHeaderText config.apiKey) (behind : Nat) :
    sentBefore config request behind = (List.range behind).map (requestAt config request) := by
  apply List.filter_eq_self.2
  simp only [List.forall_mem_map]
  exact fun other _ ↦ (isSendable_requestAt_iff other).2 hkey

/-- A request that is sent yields what the reply to it tells, with all requests before it sent. -/
theorem yields_resultAt (hkey : IsHeaderText config.apiKey) (place : Nat) :
    Yields (completionsUrl config)
      (transport ((List.range place).map (requestAt config request))
        (requestAt config request place))
      (resultAt config transport request place) := by
  rw [resultAt, if_pos ((isSendable_requestAt_iff place).2 hkey), sentBefore_of_isHeaderText hkey]
  exact yields_readReply _ _

theorem resultAt_of_not_isHeaderText (hkey : ¬IsHeaderText config.apiKey) (place : Nat) :
    resultAt config transport request place = .error (.http .unsendable) :=
  if_neg (mt (isSendable_requestAt_iff place).1 hkey)

theorem sentBefore_succ (place : Nat) :
    sentBefore config request (place + 1) =
      sentBefore config request place ++
        if isSendable (requestAt config request place) then [requestAt config request place]
        else [] := by
  rw [sentBefore, List.range_succ, List.map_append, List.filter_append, List.map_singleton,
    List.filter_cons, List.filter_nil]
  rfl

theorem length_sentBefore_le (place : Nat) : (sentBefore config request place).length ≤ place := by
  calc (sentBefore config request place).length
    _ ≤ ((List.range place).map (requestAt config request)).length := List.length_filter_le _ _
    _ = place := by rw [List.length_map, List.length_range]

/-- An answer came to a request that was sent, and so all were sent. -/
theorem sentBefore_of_resultAt {place : Nat} {v : Json}
    (h : resultAt config transport request place = .ok v) (behind : Nat) :
    sentBefore config request behind = (List.range behind).map (requestAt config request) := by
  by_cases hkey : IsHeaderText config.apiKey
  · exact sentBefore_of_isHeaderText hkey behind
  · rw [resultAt_of_not_isHeaderText hkey] at h
    cases h

variable (config transport request) in
/-- A request is added to those before it and comes to its result. -/
theorem send_eq (place : Nat) :
    send config transport request (formatAt request place) (sentBefore config request place) =
      ⟨sentBefore config request (place + 1), resultAt config transport request place⟩ := by
  rw [sentBefore_succ, resultAt, send]
  change (if isSendable (requestAt config request place) then _ else _) = _
  split_ifs
  · rfl
  · rw [List.append_nil]

/-! ## One attempt -/

/-- The first request that succeeds from a place on, with its answer. -/
structure Succeeds (config : ChatConfig) (transport : Transport) (request : CompletionRequest)
    (first place : Nat) (v : Json) : Prop where
  first_le : first ≤ place
  failsFrom : FailsFrom config transport request first place
  resultAt : resultAt config transport request place = .ok v

theorem FailsFrom.append {first mid behind : Nat}
    (hfront : FailsFrom config transport request first mid)
    (hback : FailsFrom config transport request mid behind) :
    FailsFrom config transport request first behind := by
  intro place hfirst hbehind
  rcases Nat.lt_or_ge place mid with hlt | hge
  · exact hfront place hfirst hlt
  · exact hback place hge hbehind

theorem failsFrom_self (place : Nat) : FailsFrom config transport request place place := by
  intro other hfirst hbehind
  omega

theorem failsFrom_succ {place : Nat} {error : GeneratorError}
    (h : resultAt config transport request place = .error error) :
    FailsFrom config transport request place (place + 1) := by
  intro other hfirst hbehind
  obtain rfl : other = place := by omega
  exact ⟨error, h⟩

/-- Without a schema an attempt is one request. -/
theorem tryFormats_of_none (h : request.schema = none) (place : Nat) :
    tryFormats config transport request (sentBefore config request place) =
      ⟨sentBefore config request (place + 1), resultAt config transport request place⟩ := by
  have hformat : formatAt request place = .anyObject := by simp [formatAt, h]
  have hsend := send_eq config transport request place
  rw [hformat] at hsend
  simp only [tryFormats, h, hsend]

/-- With a schema an attempt is a request for its structure and, if that fails, one for any
object. -/
theorem tryFormats_of_some {schema : Json} (h : request.schema = some schema) {place : Nat}
    (heven : place % 2 = 0) :
    tryFormats config transport request (sentBefore config request place) =
      match resultAt config transport request place with
      | .ok v => ⟨sentBefore config request (place + 1), .ok v⟩
      | .error _ =>
        ⟨sentBefore config request (place + 2), resultAt config transport request (place + 1)⟩ := by
  have hodd : (place + 1) % 2 ≠ 0 := by omega
  have hformat : formatAt request place = .schema schema := by simp [formatAt, h, heven]
  have hformat' : formatAt request (place + 1) = .anyObject := by simp [formatAt, h, hodd]
  have hfirst := send_eq config transport request place
  have hsecond := send_eq config transport request (place + 1)
  rw [hformat] at hfirst
  rw [hformat'] at hsecond
  simp only [tryFormats, h, hfirst]
  cases resultAt config transport request place with
  | ok v => rfl
  | error error => exact hsecond

variable (config transport request) in
/-- An attempt ends with the first of its requests that succeeds, or with the error of its last. -/
theorem tryFormats_eq (attempt : Nat) :
    let first := attemptSize request * attempt
    let behind := attemptSize request * (attempt + 1)
    (∃ place v, place < behind ∧ place / attemptSize request = attempt ∧
      Succeeds config transport request first place v ∧
      tryFormats config transport request (sentBefore config request first) =
        ⟨sentBefore config request (place + 1), .ok v⟩) ∨
    ∃ error, FailsFrom config transport request first behind ∧
      resultAt config transport request (lastOf request attempt) = .error error ∧
      tryFormats config transport request (sentBefore config request first) =
        ⟨sentBefore config request behind, .error error⟩ := by
  intro first behind
  have hnone : FailsFrom config transport request first first := failsFrom_self first
  cases hschema : request.schema with
  | none =>
    have hsize : attemptSize request = 1 := by simp [attemptSize, hschema]
    have hbehind : behind = first + 1 := by simp only [behind, first, hsize]; omega
    have hlast : lastOf request attempt = first := by simp only [lastOf, first, hsize]; omega
    have hattempt : first / attemptSize request = attempt := by simp only [first, hsize]; omega
    rw [tryFormats_of_none hschema, hbehind, hlast]
    cases hresult : resultAt config transport request first with
    | ok v => exact .inl ⟨first, v, by omega, hattempt, ⟨Nat.le_refl first, hnone, hresult⟩, rfl⟩
    | error error => exact .inr ⟨error, failsFrom_succ hresult, rfl, rfl⟩
  | some schema =>
    have hsize : attemptSize request = 2 := by simp [attemptSize, hschema]
    have hbehind : behind = first + 2 := by simp only [behind, first, hsize]; omega
    have hlast : lastOf request attempt = first + 1 := by simp only [lastOf, first, hsize]; omega
    have heven : first % 2 = 0 := by simp only [first, hsize]; omega
    have hattempt : first / attemptSize request = attempt := by simp only [first, hsize]; omega
    have hattempt' : (first + 1) / attemptSize request = attempt := by
      simp only [first, hsize]
      omega
    rw [tryFormats_of_some hschema heven, hbehind, hlast]
    cases hresult : resultAt config transport request first with
    | ok v => exact .inl ⟨first, v, by omega, hattempt, ⟨Nat.le_refl first, hnone, hresult⟩, rfl⟩
    | error error =>
      have hfails := failsFrom_succ hresult
      cases hresult' : resultAt config transport request (first + 1) with
      | ok v =>
        exact .inl ⟨first + 1, v, by omega, hattempt', ⟨Nat.le_succ first, hfails, hresult'⟩, rfl⟩
      | error error => exact .inr ⟨error, hfails.append (failsFrom_succ hresult'), rfl, rfl⟩

/-! ## All attempts -/

/-- The warning about an attempt that ended with an error. -/
def attemptWarning (attempt : Nat) (error : GeneratorError) : Warning :=
  ⟨"openai completion attempt failed", [("attempt", toString attempt), ("error", error.message)]⟩

section

variable {more attempt : Nat} {sent behind : List HttpRequest}

theorem attemptsFrom_of_ok {v : Json}
    (h : tryFormats config transport request sent = ⟨behind, .ok v⟩) :
    attemptsFrom config transport request more attempt sent = pure ⟨behind, .ok v⟩ := by
  unfold attemptsFrom
  rw [h]

theorem attemptsFrom_zero_of_error {error : GeneratorError}
    (h : tryFormats config transport request sent = ⟨behind, .error error⟩) :
    attemptsFrom config transport request 0 attempt sent =
      ⟨⟨behind, .error (.exhausted backendName (attempt + 1) error.message)⟩,
        [attemptWarning attempt error]⟩ := by
  unfold attemptsFrom
  rw [h]
  rfl

theorem attemptsFrom_succ_of_error {error : GeneratorError}
    (h : tryFormats config transport request sent = ⟨behind, .error error⟩) :
    attemptsFrom config transport request (more + 1) attempt sent =
      let later := attemptsFrom config transport request more (attempt + 1) behind
      ⟨later.value, attemptWarning attempt error :: later.warnings⟩ := by
  rw [attemptsFrom, h]
  rfl

end

variable (config transport request) in
/-- The attempts from one on end with the first request that succeeds, or all of them fail. Each
failed one leaves a warning. -/
theorem attemptsFrom_eq (more attempt : Nat) :
    let first := attemptSize request * attempt
    let behind := attemptSize request * (attempt + more + 1)
    let run := attemptsFrom config transport request more attempt (sentBefore config request first)
    (∃ place v failed, place < behind ∧ Succeeds config transport request first place v ∧
      run.value = ⟨sentBefore config request (place + 1), .ok v⟩ ∧
      attempt + failed = place / attemptSize request ∧
      List.Forall₂ (WarnsOf config transport request) (List.range' attempt failed) run.warnings) ∨
    ∃ error, FailsFrom config transport request first behind ∧
      resultAt config transport request (lastOf request (attempt + more)) = .error error ∧
      run.value = ⟨sentBefore config request behind,
        .error (.exhausted backendName (attempt + more + 1) error.message)⟩ ∧
      List.Forall₂ (WarnsOf config transport request) (List.range' attempt (more + 1))
        run.warnings := by
  induction more generalizing attempt with
  | zero =>
    intro first behind run
    rcases tryFormats_eq config transport request attempt with
      ⟨place, v, hplace, hattempt, hsucceeds, htry⟩ | ⟨error, hfails, hlast, htry⟩
    · have hrun : run = pure _ := attemptsFrom_of_ok htry
      rw [hrun]
      exact .inl ⟨place, v, 0, hplace, hsucceeds, rfl, hattempt.symm, .nil⟩
    · have hrun : run = ⟨_, _⟩ := attemptsFrom_zero_of_error htry
      rw [hrun]
      exact .inr ⟨error, hfails, hlast, rfl, .cons ⟨error, hlast, rfl⟩ .nil⟩
  | succ more ih =>
    intro first behind run
    have hshift : attempt + (more + 1) = attempt + 1 + more := by omega
    simp only [behind, hshift]
    rcases tryFormats_eq config transport request attempt with
      ⟨place, v, hplace, hattempt, hsucceeds, htry⟩ | ⟨error, hfails, hlast, htry⟩
    · have hrun : run = pure _ := attemptsFrom_of_ok htry
      have hle : attemptSize request * (attempt + 1) ≤
          attemptSize request * (attempt + 1 + more + 1) := Nat.mul_le_mul_left _ (by omega)
      rw [hrun]
      exact .inl ⟨place, v, 0, Nat.lt_of_lt_of_le hplace hle, hsucceeds, rfl, hattempt.symm, .nil⟩
    · have hrun : run = ⟨_, _⟩ := attemptsFrom_succ_of_error htry
      have hwarns : WarnsOf config transport request attempt (attemptWarning attempt error) :=
        ⟨error, hlast, rfl⟩
      rw [hrun]
      rcases ih (attempt + 1) with
        ⟨place, v, failed, hplace, hsucceeds, hvalue, hattempt, hwarnings⟩ |
          ⟨last, hrest, hlast', hvalue, hwarnings⟩
      · refine .inl ⟨place, v, failed + 1, hplace, ⟨?_, hfails.append hsucceeds.failsFrom,
          hsucceeds.resultAt⟩, hvalue, ?_, ?_⟩
        · exact Nat.le_trans (Nat.mul_le_mul_left _ (Nat.le_succ attempt)) hsucceeds.first_le
        · rw [← hattempt, Nat.add_right_comm, Nat.add_assoc]
        · exact .cons hwarns hwarnings
      · exact .inr ⟨last, hfails.append hrest, hlast', hvalue, .cons hwarns hwarnings⟩

/-- Whatever the service replies, what is asked at each place is known beforehand: with a schema,
answers of its structure and any objects in turn. What comes of a request is told by the reply to
it, which yields every value that it offers in print. The first reply with a readable answer is
taken and ends the requests; without one they end when the attempts are used up, with the error of
the last. -/
theorem complete_protocol (config : ChatConfig) (transport : Transport)
    (request : CompletionRequest) :
    let retries := request.maxRetries.getD 2
    let size := if request.schema.isSome then 2 else 1
    let budget := size * (retries + 1)
    let run := complete config transport request
    (∀ place, formatName? (requestAt config request place) =
      some (if request.schema.isSome ∧ place % 2 = 0 then "json_schema" else "json_object")) ∧
    (IsHeaderText config.apiKey → ∀ place, Yields (completionsUrl config)
      (transport ((List.range place).map (requestAt config request))
        (requestAt config request place))
      (resultAt config transport request place)) ∧
    (¬IsHeaderText config.apiKey → ∀ place,
      resultAt config transport request place = .error (.http .unsendable)) ∧
    (∀ messages, parseWith replyReader.reader (offering messages).print =
      .ok (messages.map Prod.snd)) ∧
    (∀ v added text, Written spelling nestingLimit v added text → ∀ status reason role others,
      ¬(400 ≤ status ∧ status < 600) ∧ status ≠ 204 ∧ status ≠ 304 →
        Yields (completionsUrl config)
          (some ⟨status, reason, (offering ((role, some v.print) :: others)).print⟩) (.ok v)) ∧
    run.value.sent.length ≤ budget ∧
    ((∃ place v, place < budget ∧ resultAt config transport request place = .ok v ∧
        (∀ other < place, ∃ error, resultAt config transport request other = .error error) ∧
        run.value.sent = (List.range (place + 1)).map (requestAt config request) ∧
        run.value.result = .ok v ∧
        List.Forall₂ (WarnsOf config transport request) (List.range (place / size)) run.warnings) ∨
      ∃ error, (∀ other < budget, ∃ error, resultAt config transport request other = .error error) ∧
        resultAt config transport request (budget - 1) = .error error ∧
        run.value.sent = sentBefore config request budget ∧
        run.value.result = .error (.exhausted "openai" (retries + 1) error.message) ∧
        List.Forall₂ (WarnsOf config transport request) (List.range (retries + 1))
          run.warnings) := by
  intro retries size budget run
  have hbudget : attemptSize request * (retries + 1) = budget := rfl
  have hlastOf : lastOf request retries = budget - 1 := rfl
  have hrun : attemptsFrom config transport request retries 0 (sentBefore config request 0) = run :=
    rfl
  have hcourse := attemptsFrom_eq config transport request retries 0
  simp only [Nat.zero_add, Nat.mul_zero, hbudget, hlastOf, hrun] at hcourse
  refine ⟨formatName?_requestAt, yields_resultAt, resultAt_of_not_isHeaderText,
    parseWith_offering, ?_, ?_⟩
  · intro v added text htext status reason role others hstatus
    exact yields_offering htext hstatus (completionsUrl config) reason role others
  rcases hcourse with
    ⟨place, v, failed, hplace, hsucceeds, hvalue, hfailed, hwarnings⟩ |
      ⟨error, hfails, hlast, hvalue, hwarnings⟩
  · refine ⟨?_, .inl ⟨place, v, hplace, hsucceeds.resultAt, ?_, ?_, ?_, ?_⟩⟩
    · rw [hvalue]
      exact Nat.le_trans (length_sentBefore_le (place + 1)) hplace
    · exact fun other hother ↦ hsucceeds.failsFrom other (Nat.zero_le _) hother
    · rw [hvalue]
      exact sentBefore_of_resultAt hsucceeds.resultAt (place + 1)
    · rw [hvalue]
    · have hfailed : failed = place / size := hfailed
      rw [List.range_eq_range', ← hfailed]
      exact hwarnings
  · refine ⟨?_, .inr ⟨error, ?_, hlast, ?_, ?_, ?_⟩⟩
    · rw [hvalue]
      exact length_sentBefore_le budget
    · exact fun other hother ↦ hfails other (Nat.zero_le _) hother
    · rw [hvalue]
    · rw [hvalue]
      rfl
    · rw [List.range_eq_range']
      exact hwarnings

end WebScaffold.Chat
