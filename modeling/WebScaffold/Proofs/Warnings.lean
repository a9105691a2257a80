import WebScaffold.Proofs.Override
import WebScaffold.Proofs.SchemaLines

/-!
# Warnings about overrides

On its way to the plan a document may lose its render mode to the repair of the draft, its target to
the one that is asked for, and its mode again to that target. Each of the three steps either leaves
what it is given as it is and says nothing, or gives one warning. So the warnings of a whole run
tell the net change: what is scaffolded afterwards gives warnings of another kind only.
-/

namespace WebScaffold

namespace Warning

/-- A warning that the render mode of a draft or of a specification was overridden. -/
def IsRenderMode (warning : Warning) : Prop :=
  warning.message = "draft render mode overridden by deploy target" ∨
    warning.message = "render mode overridden by deploy target"

instance : DecidablePred IsRenderMode :=
  fun _ ↦ inferInstanceAs (Decidable (_ ∨ _))

/-- A warning that the deploy target was overridden. -/
def IsTarget (warning : Warning) : Prop :=
  warning.message = "deploy target overridden"

instance : DecidablePred IsTarget :=
  fun _ ↦ inferInstanceAs (Decidable (_ = _))

/-- A warning about neither. -/
def IsOther (warning : Warning) : Prop :=
  ¬warning.IsRenderMode ∧ ¬warning.IsTarget

/-- A warning that the render mode was overridden by the given one. -/
structure TellsMode (mode : RenderMode) (warning : Warning) : Prop where
  isRenderMode : warning.IsRenderMode
  told : warning.details.lookup "to" = some (Variant.name mode)

theorem IsTarget.not_isRenderMode {warning : Warning} (h : warning.IsTarget) :
    ¬warning.IsRenderMode := by
  simp only [IsTarget] at h
  simp [IsRenderMode, h]

end Warning

open Warning

/-! ## The steps -/

namespace Draft

open Json

theorem part?_renderMode_of_runtimeMembers? {draft : Json} {runtime : List (String × Json)}
    (h : runtimeMembers? draft = some runtime) :
    part? "runtime" "renderMode" draft = runtime.lookup "renderMode" := by
  unfold runtimeMembers? at h
  cases hmember : draft.member? "runtime" with
  | none =>
    obtain rfl : [] = runtime := by simpa [hmember] using h
    simp [part?, hmember]
  | some v =>
    cases v with
    | object members =>
      obtain rfl : members = runtime := by simpa [hmember] using h
      rw [part?, hmember]
      rfl
    | _ => simp [hmember] at h

/-- The repair of a draft does nothing, or it tells the mode that it writes, which did not stand
there before. -/
theorem repair_eq_pure_or_tells (draft : Json) :
    repair draft = pure draft ∨
      ∃ mode warning, (repair draft).warnings = [warning] ∧ warning.TellsMode mode ∧
        (part? "runtime" "renderMode" draft).bind string? ≠ some (Variant.name mode) ∧
        part? "runtime" "renderMode" (repair draft).value = some (.string (Variant.name mode)) := by
  obtain ⟨hpure, -⟩ | ⟨target, mode, runtime, current, hmode, hruntime, hcurrent, hrepair⟩ :=
    repair_steps draft
  · exact .inl hpure
  · right
    obtain ⟨members, rfl⟩ := exists_object_of_forcedMode? hmode
    rw [hrepair]
    refine ⟨mode, _, rfl, ⟨.inl rfl, rfl⟩, ?_, ?_⟩
    · rw [part?_renderMode_of_runtimeMembers? hruntime]
      exact hcurrent
    · rw [part?_renderMode_of_runtimeMembers? runtimeMembers?_withRuntime]
      exact Table.lookup_insert_self _ _ _

theorem part?_renderMode_of_ofDocument {draft : Json} {spec : AppSpec}
    (h : AppSpec.ofDocument draft = .ok spec) :
    part? "runtime" "renderMode" draft = some (.string (Variant.name spec.runtime.renderMode)) := by
  obtain ⟨members, runtime, rfl, hruntime, hmode⟩ := exists_runtime_of_ofDocument h
  rw [part?_renderMode_of_runtimeMembers? (runtimeMembers?_eq_some_iff.2 (.inl hruntime)), hmode]

theorem part?_target_repair_value (draft : Json) :
    part? "deploy" "target" (repair draft).value = part? "deploy" "target" draft := by
  obtain ⟨hvalue, -⟩ | ⟨mode, runtime, -, -, hvalue⟩ := repair_cases draft
  · rw [hvalue]
  · rw [hvalue, part?_withRuntime (by simp)]

end Draft

namespace AppSpec

/-- Settling the mode does nothing, or it tells the mode that it sets. -/
theorem settleRenderMode_eq_pure_or_tells (spec : AppSpec) :
    spec.settleRenderMode = pure spec ∨
      ∃ warning, spec.settleRenderMode.warnings = [warning] ∧
        warning.TellsMode spec.settleRenderMode.value.runtime.renderMode := by
  unfold settleRenderMode
  cases forcedRenderMode spec.deploy.target spec.requiresAuth with
  | none => exact .inl rfl
  | some mode =>
    by_cases hsame : spec.runtime.renderMode = mode
    · exact .inl (by simp [hsame])
    · simp only [hsame, if_false]
      exact .inr ⟨_, rfl, .inr rfl, rfl⟩

/-- A target takes the place of another one and tells it, or it is there already. -/
theorem overrideTarget_tells (target? : Option DeployTarget) (spec : AppSpec) :
    (spec.overrideTarget target?).warnings = [] ∧
      (spec.withTarget target?).deploy.target = spec.deploy.target ∨
    ∃ warning, (spec.overrideTarget target?).warnings = [warning] ∧ warning.IsTarget ∧
      (spec.withTarget target?).deploy.target ≠ spec.deploy.target := by
  unfold overrideTarget
  cases target? with
  | none => exact .inl ⟨rfl, rfl⟩
  | some target =>
    by_cases hsame : spec.deploy.target = target
    · exact .inl ⟨by simp [hsame], hsame.symm⟩
    · simp only [hsame, if_false]
      exact .inr ⟨_, rfl, rfl, Ne.symm hsame⟩

end AppSpec

/-! ## The warnings of the parts of a run -/

theorem isRenderMode_of_mem_repair (draft : Json) :
    ∀ warning ∈ (Draft.repair draft).warnings, warning.IsRenderMode := by
  obtain hpure | ⟨mode, warning, hwarnings, htells, -⟩ := Draft.repair_eq_pure_or_tells draft
  · simp [hpure]
  · simp [hwarnings, htells.isRenderMode]

theorem isRenderMode_of_mem_settleRenderMode (spec : AppSpec) :
    ∀ warning ∈ spec.settleRenderMode.warnings, warning.IsRenderMode := by
  obtain hpure | ⟨warning, hwarnings, htells⟩ := spec.settleRenderMode_eq_pure_or_tells
  · simp [hpure]
  · simp [hwarnings, htells.isRenderMode]

theorem isTarget_of_mem_overrideTarget (target? : Option DeployTarget) (spec : AppSpec) :
    ∀ warning ∈ (spec.overrideTarget target?).warnings, warning.IsTarget := by
  obtain ⟨hnone, -⟩ | ⟨warning, hwarnings, hkind, -⟩ := spec.overrideTarget_tells target?
  · simp [hnone]
  · simp [hwarnings, hkind]

namespace Scaffold

open Artifact (collision databaseSchema warnings_databaseSchema)

theorem isOther_collision (entity : Entity) (field : EntityField) :
    (collision entity field).IsOther := by
  simp [collision, IsOther, IsRenderMode, IsTarget]

theorem isOther_of_mem_generatedFiles (spec : AppSpec) (plan : ProjectPlan) :
    ∀ warning ∈ (generatedFiles spec plan).warnings, warning.IsOther := by
  intro warning hwarning
  have hschema : warning ∈ (databaseSchema spec.app.entities).warnings := by
    unfold generatedFiles at hwarning
    cases hneeds : plan.needsDatabase <;> simp_all
  rw [warnings_databaseSchema] at hschema
  obtain ⟨entity, -, hmem⟩ := List.mem_flatMap.1 hschema
  obtain ⟨field, -, rfl⟩ := List.mem_map.1 hmem
  exact isOther_collision entity field

/-- What is scaffolded tells nothing about modes and targets. -/
theorem warns_scaffold (spec : AppSpec) (plan : ProjectPlan) (destination : Path)
    (conditions : Conditions) : (scaffold spec plan destination conditions).Warns IsOther := by
  refine .bind (Run.warns_of_silent fun _ ↦ rfl) fun _ ↦ ?_
  refine .bind (Run.warns_noting (isOther_of_mem_generatedFiles spec plan)) fun generated ↦ ?_
  refine .bind (Run.warns_of_silent fun _ ↦ rfl) fun _ ↦ ?_
  exact Run.warns_of_silent fun _ ↦ rfl

end Scaffold

/-! ## The warnings of a whole run -/

namespace Project

open Draft (part?)
open Json (string?)

variable {setup : Setup} {order : ProjectOrder} {path : Path} {disk last : Disk} {document : Json}
variable {spec planned : AppSpec}

theorem warnings_specOf_document {generator? : Option Generator} {limits : SynthesisLimits}
    (h : loadDocument path disk = .ok document) :
    ((specOf generator? limits (.document path)).outcome disk).warnings =
      (Draft.repair document).warnings := by
  unfold specOf
  rw [Run.warnings_bind_of_ok (Run.outcome_reading_of_ok h),
    Run.warnings_bind_of_ok (Run.outcome_noting_value _)]
  simp [validateDocument]

theorem warnings_prepare (target? : Option DeployTarget) (spec : AppSpec) (disk : Disk) :
    ((prepare target? spec).outcome disk).warnings =
      (spec.overrideTarget target?).warnings ++
        (spec.withTarget target?).settleRenderMode.warnings := by
  have hfinish : (finishSpec target? spec).warnings = (spec.overrideTarget target?).warnings ++
      (spec.withTarget target?).settleRenderMode.warnings := by
    simp [finishSpec, AppSpec.repair, AppSpec.overrideTarget_value]
  have hrest (planned : AppSpec) : ((do
      Run.ofExcept ((Scaffold.checkBlueprint planned.blueprint).mapError RunError.scaffold)
      return planned : Run RunError AppSpec).outcome disk).warnings = [] := by
    cases hcheck : (Scaffold.checkBlueprint planned.blueprint).mapError RunError.scaffold <;> rfl
  unfold prepare
  rw [Run.warnings_bind_of_ok (Run.outcome_noting_value _), hrest, Run.outcome_noting_warnings,
    hfinish, List.append_nil]

/-- Behind the plan come warnings of another kind only. -/
theorem exists_warnings_make
    (h : ((plannedSpec setup order).outcome disk).value = (.ok planned, last))
    (conditions : Scaffold.Conditions) :
    ∃ others : List Warning, (∀ warning ∈ others, warning.IsOther) ∧
      ((make setup order conditions).outcome disk).warnings =
        ((plannedSpec setup order).outcome disk).warnings ++ others := by
  refine ⟨_, ?_, Run.warnings_bind_of_ok h⟩
  refine Run.Warns.bind ((Scaffold.warns_scaffold _ _ _ _).mapError _) (fun written ↦ ?_) last
  split_ifs
  · exact .bind (Run.warns_of_silent fun _ ↦ rfl) fun _ ↦ Run.warns_of_silent fun _ ↦ rfl
  · exact Run.warns_of_silent fun _ ↦ rfl

/-- A document that is planned could be read when its draft was repaired. -/
theorem exists_ofDocument_of_plannedSpec {outDirectory : Path} {target? : Option DeployTarget}
    {install : Bool} (hload : loadDocument path disk = .ok document)
    (h : ((plannedSpec setup ⟨.document path, outDirectory, target?, install⟩).outcome disk).value =
      (.ok planned, last)) :
    ∃ spec, AppSpec.ofDocument (Draft.repair document).value = .ok spec ∧
      planned = (spec.withTarget target?).repair.value ∧
      ((plannedSpec setup ⟨.document path, outDirectory, target?, install⟩).outcome disk).warnings =
        (Draft.repair document).warnings ++ ((spec.overrideTarget target?).warnings ++
          (spec.withTarget target?).settleRenderMode.warnings) := by
  obtain ⟨spec, mid, hspec, hprepare⟩ := Run.outcome_bind_eq_ok_iff.1 h
  refine ⟨spec, ?_, ?_, ?_⟩
  · rw [specOf_document_outcome hload] at hspec
    have hvalid : (validateDocument document).value = .ok spec :=
      mapError_eq_ok_iff.1 (Prod.mk.inj hspec).1
    exact (AppSpec.validate_eq_ok_iff.1 hvalid).1
  · rw [prepare_outcome] at hprepare
    split_ifs at hprepare
    · exact (Except.ok.inj (Prod.mk.inj hprepare).1).symm
    · simp at hprepare
  · unfold plannedSpec
    rw [Run.warnings_bind_of_ok hspec, warnings_specOf_document hload, warnings_prepare]

section

variable {drafts targets modes others : List Warning}

theorem filter_isRenderMode (hdrafts : ∀ warning ∈ drafts, warning.IsRenderMode)
    (htargets : ∀ warning ∈ targets, warning.IsTarget)
    (hmodes : ∀ warning ∈ modes, warning.IsRenderMode)
    (hothers : ∀ warning ∈ others, warning.IsOther) :
    (drafts ++ (targets ++ modes) ++ others).filter (IsRenderMode ·) = drafts ++ modes := by
  have hnotargets : targets.filter (IsRenderMode ·) = [] := by
    simpa using fun warning hwarning ↦ (htargets warning hwarning).not_isRenderMode
  have hnoothers : others.filter (IsRenderMode ·) = [] := by
    simpa using fun warning hwarning ↦ (hothers warning hwarning).1
  have hall (warnings : List Warning) (h : ∀ warning ∈ warnings, warning.IsRenderMode) :
      warnings.filter (IsRenderMode ·) = warnings := by
    simpa using h
  simp only [List.filter_append, hall drafts hdrafts, hall modes hmodes, hnotargets, hnoothers,
    List.nil_append, List.append_nil]

theorem exists_isTarget_iff (hdrafts : ∀ warning ∈ drafts, warning.IsRenderMode)
    (htargets : ∀ warning ∈ targets, warning.IsTarget)
    (hmodes : ∀ warning ∈ modes, warning.IsRenderMode)
    (hothers : ∀ warning ∈ others, warning.IsOther) :
    (∃ warning ∈ drafts ++ (targets ++ modes) ++ others, warning.IsTarget) ↔ targets ≠ [] := by
  constructor
  · rintro ⟨warning, hmem, htarget⟩ rfl
    simp only [List.nil_append, List.mem_append] at hmem
    obtain (hdraft | hmode) | hother := hmem
    · exact htarget.not_isRenderMode (hdrafts warning hdraft)
    · exact htarget.not_isRenderMode (hmodes warning hmode)
    · exact (hothers warning hother).2 htarget
  · intro hne
    obtain ⟨warning, hmem⟩ := List.exists_mem_of_ne_nil targets hne
    exact ⟨warning, by simp [hmem], htargets warning hmem⟩

end

/-- The mode that is planned is the one that the document names, or the last warning about modes
tells it. -/
theorem exists_last_tells_mode (hread : AppSpec.ofDocument (Draft.repair document).value = .ok spec)
    (target? : Option DeployTarget)
    (hchanged : (part? "runtime" "renderMode" document).bind string? ≠
      some (Variant.name (spec.withTarget target?).repair.value.runtime.renderMode)) :
    ∃ warning ∈ ((Draft.repair document).warnings ++
        (spec.withTarget target?).settleRenderMode.warnings).getLast?,
      warning.TellsMode (spec.withTarget target?).repair.value.runtime.renderMode := by
  have hstands := Draft.part?_renderMode_of_ofDocument hread
  obtain hsettled | ⟨warning, hwarnings, htells⟩ :=
    (spec.withTarget target?).settleRenderMode_eq_pure_or_tells
  · have hplanned : (spec.withTarget target?).repair.value.runtime.renderMode =
        spec.runtime.renderMode := by
      rw [AppSpec.repair_value, hsettled]
      rfl
    rw [hplanned] at hchanged ⊢
    rw [hsettled, Noted.pure_warnings, List.append_nil]
    obtain hpure | ⟨mode, warning, hwarnings, htells, -, hwritten⟩ :=
      Draft.repair_eq_pure_or_tells document
    · rw [hpure, Noted.pure_value] at hstands
      exact absurd (by rw [hstands]; rfl) hchanged
    · have hsame : mode = spec.runtime.renderMode := by
        rw [hstands] at hwritten
        exact Variant.name_injective _ _ (Json.string.inj (Option.some.inj hwritten)).symm
      rw [hwarnings, ← hsame]
      exact ⟨warning, rfl, htells⟩
  · rw [hwarnings, List.getLast?_concat]
    exact ⟨warning, rfl, htells⟩

/-- Another target is told exactly when the document names a different one. -/
theorem overrideTarget_warnings_ne_nil_iff
    (hread : AppSpec.ofDocument (Draft.repair document).value = .ok spec)
    (target? : Option DeployTarget) :
    (spec.overrideTarget target?).warnings ≠ [] ↔
      part? "deploy" "target" document ≠
        some (.string (Variant.name (spec.withTarget target?).repair.value.deploy.target)) := by
  have hstands := Draft.part?_target_of_ofDocument hread
  rw [Draft.part?_target_repair_value] at hstands
  have hsame : part? "deploy" "target" document =
      some (.string (Variant.name (spec.withTarget target?).deploy.target)) ↔
        (spec.withTarget target?).deploy.target = spec.deploy.target := by
    rw [hstands, Option.some_inj, Json.string.injEq]
    exact ⟨fun hname ↦ (Variant.name_injective _ _ hname).symm, fun htarget ↦ by rw [htarget]⟩
  rw [AppSpec.deploy_repair, ne_eq, ne_eq, hsame]
  obtain ⟨hnone, htarget⟩ | ⟨warning, hwarnings, -, htarget⟩ := spec.overrideTarget_tells target?
  · simp [hnone, htarget]
  · simp [hwarnings, htarget]

/-- The repair of a draft tells once that it changes it. -/
theorem repair_warnings (document : Json) :
    (Draft.repair document).warnings.length ≤ 1 ∧
      ((Draft.repair document).warnings ≠ [] ↔ (Draft.repair document).value ≠ document) := by
  obtain hpure | ⟨mode, warning, hwarnings, -, hbefore, hafter⟩ :=
    Draft.repair_eq_pure_or_tells document
  · simp [hpure]
  · have hchanged : (Draft.repair document).value ≠ document := by
      intro hsame
      rw [hsame] at hafter
      exact hbefore (by rw [hafter]; rfl)
    simp [hwarnings, hchanged]

/-- What the warnings of a run tell about the document that was planned. -/
structure TellOverrides (document : Json) (target? : Option DeployTarget) (planned : AppSpec)
    (warnings : List Warning) : Prop where
  renderMode :
    (part? "runtime" "renderMode" document).bind string? ≠
        some (Variant.name planned.runtime.renderMode) →
      ∃ warning ∈ (warnings.filter (IsRenderMode ·)).getLast?,
        warning.TellsMode planned.runtime.renderMode
  target :
    (∃ warning ∈ warnings, warning.IsTarget) ↔
      part? "deploy" "target" document ≠ some (.string (Variant.name planned.deploy.target))
  unasked : target? = none →
    (warnings.filter (IsRenderMode ·)).length ≤ 1 ∧
      (warnings.filter (IsRenderMode ·) ≠ [] ↔ (Draft.repair document).value ≠ document)

/-- Nothing that a document says is overridden silently. Another mode than the one that it names is
told by the last warning about modes, another target by a warning of its own; and if no target is
asked for, there is one warning about modes where the repair of the draft changed it, and none
elsewhere. It does not matter whether the project can be written then. -/
theorem make_tells_overrides {outDirectory : Path} {target? : Option DeployTarget} {install : Bool}
    (hload : loadDocument path disk = .ok document)
    (hplanned : ((plannedSpec setup ⟨.document path, outDirectory, target?, install⟩).outcome
      disk).value = (.ok planned, last)) (conditions : Scaffold.Conditions) :
    TellOverrides document target? planned
      ((make setup ⟨.document path, outDirectory, target?, install⟩ conditions).outcome
        disk).warnings := by
  obtain ⟨others, hothers, hmade⟩ := exists_warnings_make hplanned conditions
  obtain ⟨spec, hread, rfl, hwarnings⟩ := exists_ofDocument_of_plannedSpec hload hplanned
  have hdrafts := isRenderMode_of_mem_repair document
  have htargets := isTarget_of_mem_overrideTarget target? spec
  have hmodes := isRenderMode_of_mem_settleRenderMode (spec.withTarget target?)
  rw [hmade, hwarnings]
  constructor
  · rw [filter_isRenderMode hdrafts htargets hmodes hothers]
    exact exists_last_tells_mode hread target?
  · rw [exists_isTarget_iff hdrafts htargets hmodes hothers]
    exact overrideTarget_warnings_ne_nil_iff hread target?
  · rintro rfl
    have hsettled : (spec.withTarget none).settleRenderMode = pure spec :=
      Draft.settleRenderMode_of_ofDocument_repair hread
    rw [filter_isRenderMode hdrafts htargets hmodes hothers, hsettled, Noted.pure_warnings,
      List.append_nil]
    exact repair_warnings document

/-- The trails, which name no mode, get pages from the server before the static host comes, and
static ones with it; both are told, and so is the host. The recipes, for which no target is asked
for, get static pages at once. -/
theorem trailsDraft_misplacedDraft_tell_overrides :
    let asked := ((make trailsSetup
      ⟨.document ⟨"trails"⟩, ⟨"out"⟩, some .githubPages, false⟩).outcome
        (diskWith trailsDraft.print)).warnings
    let unasked := ((make trailsSetup ⟨.document ⟨"trails"⟩, ⟨"out"⟩, none, false⟩).outcome
      (diskWith Draft.misplacedDraft.print)).warnings
    ((∃ warning ∈ (asked.filter (IsRenderMode ·)).getLast?, warning.TellsMode .static) ∧
      ∃ warning ∈ asked, warning.IsTarget) ∧
    ((unasked.filter (IsRenderMode ·)).length = 1 ∧ ¬∃ warning ∈ unasked, warning.IsTarget) := by
  have hasked : ((plannedSpec trailsSetup
      ⟨.document ⟨"trails"⟩, ⟨"out"⟩, some .githubPages, false⟩).outcome
        (diskWith trailsDraft.print)).value = (.ok trailsSpec, diskWith trailsDraft.print) := by
    have hread : (validateDocument trailsDraft).value = .ok _ := rfl
    rw [plannedSpec_document_outcome (loadDocument_diskWith parse_print_trailsDraft) hread rfl]
    rfl
  have hload : loadDocument ⟨"trails"⟩ (diskWith Draft.misplacedDraft.print) =
      .ok Draft.misplacedDraft :=
    loadDocument_diskWith_print (by decide +kernel)
  have hunasked : ((plannedSpec trailsSetup ⟨.document ⟨"trails"⟩, ⟨"out"⟩, none, false⟩).outcome
      (diskWith Draft.misplacedDraft.print)).value =
        (.ok (Draft.misplacedSpec.withRenderMode .static),
          diskWith Draft.misplacedDraft.print) := by
    have hread : (validateDocument Draft.misplacedDraft).value = .ok _ := rfl
    rw [plannedSpec_document_outcome hload hread rfl]
    rfl
  have htold := make_tells_overrides (loadDocument_diskWith parse_print_trailsDraft) hasked .usual
  have htold' := make_tells_overrides hload hunasked .usual
  refine ⟨⟨htold.renderMode (by decide), htold.target.2 (by decide)⟩, ?_, ?_⟩
  · obtain ⟨hatmost, hsome⟩ := htold'.unasked rfl
    have hne := hsome.2 (by decide)
    exact Nat.le_antisymm hatmost (List.length_pos_of_ne_nil hne)
  · rw [htold'.target]
    decide

end Project

end WebScaffold
