import Mathlib.Data.List.Forall2
import WebScaffold.Proofs.Repair

/-!
# What a repair adds

A repair sets the render mode where there is no choice and completes the landing pages, for every
specification, whether it keeps the rules or not. Nothing else changes, and nothing is taken away:
the sections of a landing page stand in the repaired one in their order, between a hero and features
if they had none. The account that is given here of a repaired specification fits one only.
-/

namespace WebScaffold.AppSpec

variable {spec repaired : AppSpec} {hero part : PageSection} {page page' : PageDescriptor}

/-! ## Completed pages -/

/-- What is added to the sections of a page for the sake of one kind: the given section where there
is none of its kind. -/
def missing (part : PageSection) (parts : List PageSection) : List PageSection :=
  if ∀ other ∈ parts, other.kind ≠ part.kind then [part] else []

/-- What a page comes to: a landing page gets the sections that are missing, the hero in front and
the features behind. -/
inductive Completed (hero : PageSection) : PageDescriptor → PageDescriptor → Prop
  | path (path : String) : Completed hero (.path path) (.path path)
  | other (page : PageSpec) (hpurpose : page.purpose ≠ .landing) :
      Completed hero (.detailed page) (.detailed page)
  | landing (page : PageSpec) (hpurpose : page.purpose = .landing) (parts : List PageSection)
      (hparts : parts = page.sections.getD []) :
      Completed hero (.detailed page) (.detailed { page with
        sections := some (missing hero parts ++ parts ++ missing usualFeatures parts) })

theorem missing_eq (part : PageSection) (parts : List PageSection) :
    missing part parts = if parts.any (·.kind == part.kind) then [] else [part] := by
  have hnone : (∀ other ∈ parts, other.kind ≠ part.kind) ↔
      ¬parts.any (·.kind == part.kind) = true := by
    simp
  rw [missing, if_congr hnone rfl rfl, ite_not]

theorem completeSections_eq_missing (hhero : hero.kind = .hero) (parts : List PageSection) :
    completeSections hero parts =
      missing hero parts ++ parts ++ missing usualFeatures parts := by
  rw [completeSections_eq hhero, missing_eq, missing_eq, hhero]
  rfl

theorem completed_iff (hhero : hero.kind = .hero) :
    Completed hero page page' ↔ completePage hero page = page' := by
  constructor
  · rintro (_ | ⟨page, hpurpose⟩ | ⟨page, hpurpose, parts, rfl⟩)
    · rfl
    · rw [completePage, if_neg hpurpose]
    · rw [completePage, if_pos hpurpose, completeSections_eq_missing hhero]
  · rintro rfl
    cases page with
    | path path => exact .path path
    | detailed page =>
      by_cases hpurpose : page.purpose = .landing
      · rw [completePage, if_pos hpurpose, completeSections_eq_missing hhero]
        exact .landing page hpurpose _ rfl
      · rw [completePage, if_neg hpurpose]
        exact .other page hpurpose

/-! ## The hero of an app -/

/-- The hero that is made for an app. A headline and a subhead come with it only if they are long
enough. -/
structure IsHeroOf (app : App) (hero : PageSection) : Prop where
  kind : hero.kind = .hero
  headline (text : String) :
    hero.headline = some text ↔ text = "Welcome to " ++ app.name ∧ 18 ≤ text.length
  subhead (text : String) : hero.subhead = some text ↔ text = app.purpose ∧ 30 ≤ text.length
  bullets : hero.bullets = none
  fields : hero.fields = none

theorem ite_some_eq_some_iff {least : Nat} {text other : String} :
    (if least ≤ text.length then some text else none) = some other ↔
      other = text ∧ least ≤ other.length := by
  rw [Option.ite_none_right_eq_some, Option.some.injEq]
  constructor
  · rintro ⟨hlength, rfl⟩
    exact ⟨rfl, hlength⟩
  · rintro ⟨rfl, hlength⟩
    exact ⟨hlength, rfl⟩

theorem isHeroOf_usualHero (app : App) : IsHeroOf app (usualHero app.name app.purpose) where
  kind := rfl
  headline _ := ite_some_eq_some_iff
  subhead _ := ite_some_eq_some_iff
  bullets := rfl
  fields := rfl

theorem IsHeroOf.eq {app : App} (h : IsHeroOf app hero) (hpart : IsHeroOf app part) :
    hero = part := by
  cases hero
  cases part
  congr
  · exact h.kind.trans hpart.kind.symm
  · exact Option.ext fun text ↦ (h.headline text).trans (hpart.headline text).symm
  · exact Option.ext fun text ↦ (h.subhead text).trans (hpart.subhead text).symm
  · exact h.bullets.trans hpart.bullets.symm
  · exact h.fields.trans hpart.fields.symm

/-! ## Repaired specifications -/

/-- A specification that differs from another one at most in a render mode that is forced and in
what its landing pages were missing. -/
structure IsRepairOf (spec repaired : AppSpec) : Prop where
  blueprint : repaired.blueprint = spec.blueprint
  app : repaired.app = spec.app
  features : repaired.features = { spec.features with pages := repaired.features.pages }
  pages : ∃ hero, IsHeroOf spec.app hero ∧
    List.Forall₂ (Completed hero) spec.features.pages repaired.features.pages
  runtime : repaired.runtime =
    { spec.runtime with renderMode := spec.forcedMode?.getD spec.runtime.renderMode }
  deploy : repaired.deploy = spec.deploy

theorem settleRenderMode_eq (spec : AppSpec) : spec.settleRenderMode.value =
    { spec with runtime := { spec.runtime with
      renderMode := spec.forcedMode?.getD spec.runtime.renderMode } } := by
  rw [settleRenderMode_value]
  cases spec.forcedMode? with
  | none => rfl
  | some mode => rfl

theorem forall₂_completed_iff {pages pages' : List PageDescriptor} (hhero : hero.kind = .hero) :
    List.Forall₂ (Completed hero) pages pages' ↔ pages.map (completePage hero) = pages' := by
  have hrel : Completed hero = fun page page' ↦ completePage hero page = page' := by
    funext page page'
    exact propext (completed_iff hhero)
  rw [hrel, ← List.forall₂_map_left_iff (R := Eq), List.forall₂_eq_eq_eq]

theorem isRepairOf_iff : IsRepairOf spec repaired ↔ spec.repair.value = repaired := by
  have hrepair : spec.repair.value =
      { spec with
        features := { spec.features with
          pages := spec.features.pages.map
            (completePage (usualHero spec.app.name spec.app.purpose)) }
        runtime := { spec.runtime with
          renderMode := spec.forcedMode?.getD spec.runtime.renderMode } } := by
    rw [repair_value, settleRenderMode_eq]
    rfl
  have hhero := isHeroOf_usualHero spec.app
  constructor
  · intro h
    obtain ⟨hero, hmade, hpages⟩ := h.pages
    obtain rfl := hmade.eq hhero
    rw [forall₂_completed_iff rfl] at hpages
    rw [hrepair, hpages, ← h.features, ← h.runtime, ← h.blueprint, ← h.app, ← h.deploy]
  · rintro rfl
    rw [hrepair]
    exact {
      blueprint := rfl
      app := rfl
      features := rfl
      pages := ⟨_, hhero, (forall₂_completed_iff rfl).2 rfl⟩
      runtime := rfl
      deploy := rfl }

/-- A repair sets a forced mode and adds what landing pages are missing, and that is all. It leaves
its own result alone, without a warning. -/
theorem repair_completes (spec : AppSpec) :
    (∀ repaired, spec.repair.value = repaired ↔ IsRepairOf spec repaired) ∧
      spec.repair.value.repair = pure spec.repair.value := by
  constructor
  · intro repaired
    exact isRepairOf_iff.symm
  · exact repair_repair spec

end WebScaffold.AppSpec
