import Mathlib.Tactic.Common
import WebScaffold.Spec.Refine
import WebScaffold.Spec.Repair

/-!
# Repairing specifications

The repairs of decoded specifications. Each is idempotent, and they get along with each other and
with another deploy target: a specification that was repaired for one target needs only the mode of
the new one. The rules between the parts look at nothing that a repair touches.
-/

namespace WebScaffold

namespace AppSpec

variable {spec : AppSpec}

/-! ## Render modes -/

/-- The render mode that a specification's target and sign-in leave no choice about. -/
def forcedMode? (spec : AppSpec) : Option RenderMode :=
  forcedRenderMode spec.deploy.target spec.requiresAuth

theorem settleRenderMode_value (spec : AppSpec) :
    spec.settleRenderMode.value = spec.forcedMode?.elim spec fun mode ↦ spec.withRenderMode mode := by
  unfold settleRenderMode forcedMode?
  cases forcedRenderMode spec.deploy.target spec.requiresAuth with
  | none => rfl
  | some mode =>
    by_cases hsame : spec.runtime.renderMode = mode
    · subst hsame
      simp [withRenderMode]
    · simp [hsame]

/-- Nothing is said and nothing is done exactly when the mode is the forced one, if one is forced. -/
theorem settleRenderMode_eq_pure_iff :
    spec.settleRenderMode = pure spec ↔ ∀ mode ∈ spec.forcedMode?, spec.runtime.renderMode = mode := by
  unfold settleRenderMode forcedMode?
  cases forcedRenderMode spec.deploy.target spec.requiresAuth with
  | none => simp
  | some mode =>
    by_cases hsame : spec.runtime.renderMode = mode
    · simp [hsame]
    · simp only [hsame, if_false, Option.mem_some_iff, forall_eq', iff_false]
      intro hpure
      have hwarnings := congrArg Noted.warnings hpure
      simp at hwarnings

theorem renderMode_settleRenderMode {mode : RenderMode}
    (h : mode ∈ spec.settleRenderMode.value.forcedMode?) :
    spec.settleRenderMode.value.runtime.renderMode = mode := by
  rw [settleRenderMode_value] at h ⊢
  cases hmode : spec.forcedMode? with
  | none =>
    rw [hmode] at h
    simp [hmode] at h
  | some forced =>
    rw [hmode] at h
    have hsame : forcedMode? (spec.withRenderMode forced) = some mode := h
    rw [show forcedMode? (spec.withRenderMode forced) = spec.forcedMode? from rfl, hmode] at hsame
    exact Option.some.inj hsame

/-! ## Sections -/

section

variable {hero : PageSection}

/-- What is written stays in its order; a hero comes in front of it and features behind it. -/
theorem completeSections_eq (hhero : hero.kind = .hero) (parts : List PageSection) :
    completeSections hero parts =
      (if parts.any (·.kind == .hero) then [] else [hero]) ++ parts ++
        if parts.any (·.kind == .features) then [] else [usualFeatures] := by
  unfold completeSections
  cases hany : parts.any (·.kind == .hero) <;> cases hfeatures : parts.any (·.kind == .features) <;>
    simp [hhero, hfeatures]

theorem any_completeSections_hero (hhero : hero.kind = .hero) (parts : List PageSection) :
    (completeSections hero parts).any (·.kind == .hero) = true := by
  rw [completeSections_eq hhero, List.any_append, List.any_append]
  cases hany : parts.any (·.kind == .hero) <;> simp [hhero]

theorem any_completeSections_features (hhero : hero.kind = .hero) (parts : List PageSection) :
    (completeSections hero parts).any (·.kind == .features) = true := by
  rw [completeSections_eq hhero, List.any_append, List.any_append]
  cases hany : parts.any (·.kind == .features) <;> simp [usualFeatures]

theorem completeSections_eq_self {parts : List PageSection}
    (hhero : parts.any (·.kind == .hero) = true)
    (hfeatures : parts.any (·.kind == .features) = true) : completeSections hero parts = parts := by
  simp [completeSections, hhero, hfeatures]

theorem completeSections_completeSections (hhero : hero.kind = .hero) (parts : List PageSection) :
    completeSections hero (completeSections hero parts) = completeSections hero parts :=
  completeSections_eq_self (any_completeSections_hero hhero parts)
    (any_completeSections_features hhero parts)

theorem completePage_completePage (hhero : hero.kind = .hero) (page : PageDescriptor) :
    completePage hero (completePage hero page) = completePage hero page := by
  cases page with
  | path p => rfl
  | detailed page =>
    by_cases hpurpose : page.purpose = .landing
    · simp [completePage, hpurpose, completeSections_completeSections hhero]
    · simp [completePage, hpurpose]

end

theorem usualHero_kind (name purpose : String) : (usualHero name purpose).kind = .hero := rfl

theorem ensureSections_ensureSections (spec : AppSpec) :
    spec.ensureSections.ensureSections = spec.ensureSections := by
  have hpages := funext (completePage_completePage (usualHero_kind spec.app.name spec.app.purpose))
  simp [ensureSections, Function.comp_def, hpages]

/-- Every landing page that is given with its content has a hero and features. -/
def HasLandingSections (spec : AppSpec) : Prop :=
  ∀ page, .detailed page ∈ spec.features.pages → page.purpose = .landing →
    ∃ parts, page.sections = some parts ∧ (∃ part ∈ parts, part.kind = .hero) ∧
      ∃ part ∈ parts, part.kind = .features

theorem hasLandingSections_ensureSections (spec : AppSpec) :
    spec.ensureSections.HasLandingSections := by
  have hhero := usualHero_kind spec.app.name spec.app.purpose
  intro page hpage hpurpose
  obtain ⟨before, -, hbefore⟩ := List.mem_map.mp hpage
  cases before with
  | path p => simp [completePage] at hbefore
  | detailed before =>
    by_cases hlanding : before.purpose = .landing
    · simp only [completePage, hlanding, if_true, PageDescriptor.detailed.injEq] at hbefore
      subst hbefore
      refine ⟨_, rfl, ?_, ?_⟩
      · simpa using any_completeSections_hero hhero (before.sections.getD [])
      · simpa using any_completeSections_features hhero (before.sections.getD [])
    · simp only [completePage, hlanding, if_false, PageDescriptor.detailed.injEq] at hbefore
      exact absurd (hbefore ▸ hpurpose) hlanding

/-! ## Whole repairs and other targets -/

/-- A specification with another target, if one is asked for. -/
def withTarget (target? : Option DeployTarget) (spec : AppSpec) : AppSpec :=
  { spec with deploy := { spec.deploy with target := target?.getD spec.deploy.target } }

theorem overrideTarget_value (target? : Option DeployTarget) (spec : AppSpec) :
    (spec.overrideTarget target?).value = spec.withTarget target? := by
  cases target? with
  | none => rfl
  | some target =>
    by_cases hsame : spec.deploy.target = target
    · subst hsame
      simp [overrideTarget, withTarget]
    · simp [overrideTarget, withTarget, hsame]

theorem repair_value (spec : AppSpec) :
    spec.repair.value = spec.settleRenderMode.value.ensureSections := rfl

theorem settleRenderMode_ensureSections (spec : AppSpec) :
    spec.ensureSections.settleRenderMode.value = spec.settleRenderMode.value.ensureSections := by
  rw [settleRenderMode_value, settleRenderMode_value,
    show spec.ensureSections.forcedMode? = spec.forcedMode? from rfl]
  cases spec.forcedMode? <;> rfl

theorem blueprint_repair (spec : AppSpec) : spec.repair.value.blueprint = spec.blueprint := by
  rw [repair_value, settleRenderMode_value]
  cases spec.forcedMode? <;> rfl

theorem deploy_repair (spec : AppSpec) : spec.repair.value.deploy = spec.deploy := by
  rw [repair_value, settleRenderMode_value]
  cases spec.forcedMode? <;> rfl

/-- A repaired specification is left alone, without a warning. -/
theorem repair_repair (spec : AppSpec) : spec.repair.value.repair = pure spec.repair.value := by
  have hmode : spec.repair.value.settleRenderMode = pure spec.repair.value :=
    settleRenderMode_eq_pure_iff.2 fun _ hforced ↦ renderMode_settleRenderMode hforced
  have hsections : spec.repair.value.ensureSections = spec.repair.value :=
    ensureSections_ensureSections spec.settleRenderMode.value
  calc spec.repair.value.repair
      = spec.repair.value.settleRenderMode >>= fun settled ↦ pure settled.ensureSections := rfl
    _ = pure spec.repair.value.ensureSections := by rw [hmode, pure_bind]
    _ = pure spec.repair.value := by rw [hsections]

/-- What was repaired before another target is chosen does not show after the next repair, as long as
the first one found the right mode. -/
theorem repair_withTarget_repair (hmode : spec.settleRenderMode.value = spec)
    (target? : Option DeployTarget) :
    (spec.repair.value.withTarget target?).repair.value =
      (spec.withTarget target?).repair.value := by
  have hswap : spec.ensureSections.withTarget target? = (spec.withTarget target?).ensureSections := rfl
  rw [repair_value, repair_value, repair_value, hmode, hswap, settleRenderMode_ensureSections,
    ensureSections_ensureSections]

/-! ## Rules -/

theorem pagePath_completePage (hero : PageSection) (page : PageDescriptor) :
    (completePage hero page).pagePath = page.pagePath := by
  cases page with
  | path p => rfl
  | detailed page =>
    by_cases hpurpose : page.purpose = .landing <;> simp [completePage, hpurpose, PageDescriptor.pagePath]

theorem ruleIssues_ensureSections (spec : AppSpec) :
    spec.ensureSections.ruleIssues = spec.ruleIssues := by
  simp only [ruleIssues, ensureSections, List.zipIdx_map, List.flatMap_map, Prod.map, id_eq,
    pagePathIssues, pagePath_completePage]

theorem ruleIssues_settleRenderMode (spec : AppSpec) :
    spec.settleRenderMode.value.ruleIssues = spec.ruleIssues := by
  rw [settleRenderMode_value]
  cases spec.forcedMode? <;> rfl

theorem ruleIssues_repair (spec : AppSpec) : spec.repair.value.ruleIssues = spec.ruleIssues := by
  rw [repair_value, ruleIssues_ensureSections, ruleIssues_settleRenderMode]

end AppSpec

end WebScaffold
