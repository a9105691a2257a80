import WebScaffold.Proofs.Planned

/-!
# Drafts and corrections

An idea becomes a specification in one attempt or in two. What an attempt comes to is a matter of
the reply to it alone, whatever was replied before: the relation `Judged` lists the ways. The
generator is asked for a correction exactly when its draft was refused, and is told the reason; what
it replies then is judged in the same way, and a second reason is final.
-/

namespace WebScaffold.Synthesis

open AppSpec

/-- What a reply comes to. An answer is taken out of its envelope and repaired as a draft before it
is read, and what was read of it is repaired before its rules are checked. -/
inductive Judged (limits : SynthesisLimits) : Completion → Except String AppSpec → Prop where
  | timeout :
    Judged limits .timeout
      (.error ("generation timed out after " ++ secondsText limits.timeout ++ "s"))
  | failure (error : GeneratorError) :
    Judged limits (.failure error) (.error ("generation failed: " ++ error.message))
  | unreadable {answer : Json} {error : ValidationError}
    (hread : ofDocument (Draft.repair (openEnvelope answer)).value = .error error) :
    Judged limits (.answer answer) (.error error.message)
  | unruly {answer : Json} {read : AppSpec} {error : ValidationError}
    (hread : ofDocument (Draft.repair (openEnvelope answer)).value = .ok read)
    (hrules : read.repair.value.checkRules = .error error) :
    Judged limits (.answer answer) (.error error.message)
  | accepted {answer : Json} {read : AppSpec}
    (hread : ofDocument (Draft.repair (openEnvelope answer)).value = .ok read)
    (hrules : read.repair.value.checkRules = .ok ()) :
    Judged limits (.answer answer) (.ok read.repair.value)

variable {limits : SynthesisLimits}

theorem judged_accept (answer : Json) : Judged limits (.answer answer) (accept answer).value := by
  unfold accept
  rw [Noted.bind_value]
  cases hread : ofDocument (Draft.repair (openEnvelope answer)).value with
  | error error => exact .unreadable hread
  | ok read =>
    rw [Noted.bind_value]
    cases hrules : read.repair.value.checkRules with
    | error error => exact .unruly hread hrules
    | ok passed => exact .accepted hread hrules

theorem judged_judge (completion : Completion) :
    Judged limits completion (judge limits completion).value := by
  cases completion with
  | timeout => exact .timeout
  | failure error => exact .failure error
  | answer answer => exact judged_accept answer

/-- The code of an attempt judges the reply of its one call. -/
theorem judged_tryOnce (generator : Generator) (earlier : List CompletionRequest)
    (request : CompletionRequest) :
    Judged limits (generator.complete earlier request).value
      (tryOnce generator limits earlier request).value.result :=
  judged_judge (generator.complete earlier request).value

/-- A reply comes to one thing, which depends on nothing else. -/
theorem Judged.eq {completion : Completion} {left right : Except String AppSpec}
    (hleft : Judged limits completion left) (hright : Judged limits completion right) :
    left = right := by
  cases hleft <;> cases hright <;> simp_all

theorem existsUnique_judged (completion : Completion) :
    ∃! result, Judged limits completion result :=
  ⟨_, judged_judge completion, fun _ hother ↦ hother.eq (judged_judge completion)⟩

theorem judged_ok_iff {completion : Completion} {spec : AppSpec} :
    Judged limits completion (.ok spec) ↔
      ∃ answer read, completion = .answer answer ∧
        ofDocument (Draft.repair (openEnvelope answer)).value = .ok read ∧
        read.repair.value = spec ∧ spec.checkRules = .ok () := by
  constructor
  · rintro ⟨⟩
    rename_i answer read hread hrules
    exact ⟨answer, read, rfl, hread, rfl, hrules⟩
  · rintro ⟨answer, read, rfl, hread, rfl, hrules⟩
    exact .accepted hread hrules

/-- A generator is asked once, or a second time with the reason why its draft was refused. The first
accepted reply gives the specification, and a second refusal ends the synthesis with its own reason.
Each reply is judged for itself, and accepted exactly when the repaired answer fits the schema and
keeps the rules. -/
theorem specFromIdea_protocol (generator : Generator) (limits : SynthesisLimits) (idea : String)
    (hints : Table Json) (disk : Disk) :
    let prompt := promptFor idea hints schemaDocument
    let draft : CompletionRequest :=
      { system := prompt.system, user := prompt.user, schema := some schemaDocument
        maxRetries := none }
    let correction (error : String) : CompletionRequest :=
      { system := prompt.system
        user := prompt.user ++ "\nPrevious output failed validation: " ++ error ++
          "\nCorrect the JSON strictly to satisfy the schema. Output only JSON."
        schema := some schemaDocument
        maxRetries := some 1 }
    let requests := (specFromIdea generator limits idea hints).value.requests
    let outcome := ((Project.specOf (some generator) limits (.idea idea hints)).outcome disk).value
    ((∃ spec, Judged limits (generator.complete [] draft).value (.ok spec) ∧
        requests = [draft] ∧ outcome = (.ok spec, disk)) ∨
      ∃ error, Judged limits (generator.complete [] draft).value (.error error) ∧
        requests = [draft, correction error] ∧
        ((∃ spec, Judged limits (generator.complete [draft] (correction error)).value (.ok spec) ∧
            outcome = (.ok spec, disk)) ∨
          ∃ last, Judged limits (generator.complete [draft] (correction error)).value (.error last) ∧
            outcome = (.error (.synthesis 2 last), disk))) ∧
    (∀ completion, ∃! result, Judged limits completion result) ∧
    ∀ completion spec, Judged limits completion (.ok spec) ↔
      ∃ answer read, completion = .answer answer ∧
        ofDocument (Draft.repair (openEnvelope answer)).value = .ok read ∧
        read.repair.value = spec ∧ spec.checkRules = .ok () := by
  intro prompt draft correction requests outcome
  refine ⟨?_, existsUnique_judged, fun completion spec ↦ judged_ok_iff⟩
  have houtcome {result : Except String AppSpec}
      (hresult : (specFromIdea generator limits idea hints).value.result = result) :
      outcome = (result.mapError (RunError.synthesis 2), disk) := by
    rw [← hresult]
    exact Project.specOf_idea_outcome idea hints
  have hdraft : Judged limits (generator.complete [] draft).value
      (tryOnce generator limits [] draft).value.result := judged_tryOnce generator [] draft
  cases hfirst : (tryOnce generator limits [] draft).value.result with
  | ok spec =>
    have hrun := specFromIdea_of_draft hfirst
    rw [hfirst] at hdraft
    exact .inl ⟨spec, hdraft, congrArg Outcome.requests hrun,
      houtcome (congrArg Outcome.result hrun)⟩
  | error error =>
    have hrun := specFromIdea_of_rejected hfirst
    have hresult : (specFromIdea generator limits idea hints).value.result =
        (tryOnce generator limits [draft] (correction error)).value.result := congrArg Outcome.result hrun
    have hcorrection : Judged limits (generator.complete [draft] (correction error)).value
        (tryOnce generator limits [draft] (correction error)).value.result :=
      judged_tryOnce generator [draft] (correction error)
    rw [hfirst] at hdraft
    refine .inr ⟨error, hdraft, congrArg Outcome.requests hrun, ?_⟩
    cases hsecond : (tryOnce generator limits [draft] (correction error)).value.result with
    | ok spec =>
      rw [hsecond] at hcorrection
      exact .inl ⟨spec, hcorrection, houtcome (hresult.trans hsecond)⟩
    | error last =>
      rw [hsecond] at hcorrection
      exact .inr ⟨last, hcorrection, houtcome (hresult.trans hsecond)⟩

end WebScaffold.Synthesis
