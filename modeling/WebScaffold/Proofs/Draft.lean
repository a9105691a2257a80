import WebScaffold.Proofs.Repair
import WebScaffold.Proofs.Wire

/-!
# Repairing drafts

The rule about render modes is applied to drafts that nobody has decoded yet and to specifications.
Here the two are compared. What an accepted draft says about target, sign-in and render mode is what
its specification says, so both repairs see the same rule; and a repaired draft is a fixed point, so
the repair of its specification has nothing left to do.
-/

namespace WebScaffold

open Json Schema

/-! ## Reading the parts of an accepted document -/

theorem decodeVariant_eq_ok_iff {α : Type} [Variant α] {v : Json} {a : α}
    (hv : Accepts v (AppSpec.choice α)) :
    decodeVariant v = .ok a ↔ v = .string (Variant.name a) := by
  constructor
  · intro hdecode
    obtain ⟨name, hname, rfl⟩ := hv
    obtain ⟨b, -, rfl⟩ := List.mem_map.mp hname
    have hb := (Describes.choice α).decode_encode b
    rw [encodeVariant, hdecode] at hb
    rw [Except.ok.inj hb]
  · rintro rfl
    exact (Describes.choice α).decode_encode a

theorem Deploy.exists_target {members : List (String × Json)} {deploy : Deploy}
    (h : Deploy.decode (.object members) = .ok deploy) :
    ∃ v, members.lookup "target" = some v ∧ decodeVariant v = .ok deploy.target := by
  cases deploy
  simp only [Deploy.decode, decodeRecord_object_eq_ok_iff, Fields.and_eq_value_iff,
    Fields.map_eq_value_iff, requiredField_eq_value_iff] at h
  simp_all

theorem Features.exists_auth {members : List (String × Json)} {features : Features}
    (h : Features.decode (.object members) = .ok features) :
    ∃ v, members.lookup "auth" = some v ∧ decodeVariant v = .ok features.auth := by
  cases features
  simp only [Features.decode, decodeRecord_object_eq_ok_iff, Fields.and_eq_value_iff,
    Fields.map_eq_value_iff, requiredField_eq_value_iff] at h
  simp_all

theorem Runtime.decode_object_eq_ok_iff {members : List (String × Json)} {runtime : Runtime} :
    Runtime.decode (.object members) = .ok runtime ↔
      (∃ v, members.lookup "renderMode" = some v ∧ decodeVariant v = .ok runtime.renderMode) ∧
        ∃ v, members.lookup "database" = some v ∧ decodeVariant v = .ok runtime.database := by
  cases runtime
  simp [Runtime.decode, requiredField_eq_value_iff]

namespace AppSpec

theorem ofDocument_eq_ok_iff {document : Json} {spec : AppSpec} :
    ofDocument document = .ok spec ↔ Accepts document schema ∧ decode document = .ok spec := by
  rw [← issues_eq_nil_iff "" document schema, ofDocument]
  cases hissues : schema.issues "" document with
  | nil => cases hdecode : decode document <;> simp [Except.mapError]
  | cons issue issues => simp

theorem decode_object_eq_ok_iff {members : List (String × Json)} {spec : AppSpec} :
    decode (.object members) = .ok spec ↔
      (∃ v, members.lookup "blueprint" = some v ∧ decodeVariant v = .ok spec.blueprint) ∧
      (∃ v, members.lookup "app" = some v ∧ App.decode v = .ok spec.app) ∧
      (∃ v, members.lookup "features" = some v ∧ Features.decode v = .ok spec.features) ∧
      (∃ v, members.lookup "runtime" = some v ∧ Runtime.decode v = .ok spec.runtime) ∧
      ∃ v, members.lookup "deploy" = some v ∧ Deploy.decode v = .ok spec.deploy := by
  cases spec
  simp [decode, requiredField_eq_value_iff, and_assoc]

end AppSpec

/-- A choice that was read from an accepted record stands there by its name. -/
theorem lookup_eq_name_of_decode {α : Type} [Variant α] {required : List String}
    {properties : List (String × Schema)} {members : List (String × Json)} {key : String} {a : α}
    (haccepts : Accepts (.object members) (.record required properties))
    (hschema : properties.lookup key = some (AppSpec.choice α))
    (hread : ∃ v, members.lookup key = some v ∧ decodeVariant v = .ok a) :
    members.lookup key = some (.string (Variant.name a)) := by
  obtain ⟨v, hlookup, hdecode⟩ := hread
  have hchoice : Accepts v (AppSpec.choice α) := haccepts.of_lookup hlookup hschema
  rw [hlookup, (decodeVariant_eq_ok_iff hchoice).mp hdecode]

namespace Draft

open AppSpec

variable {draft : Json} {spec : AppSpec}

theorem part?_target_of_ofDocument (h : ofDocument draft = .ok spec) :
    part? "deploy" "target" draft = some (.string (Variant.name spec.deploy.target)) := by
  obtain ⟨haccepts, hdecode⟩ := ofDocument_eq_ok_iff.1 h
  obtain ⟨members, rfl, -⟩ := id haccepts
  obtain ⟨-, -, -, -, v, hlookup, hdeploy⟩ := decode_object_eq_ok_iff.1 hdecode
  have hv : Accepts v deploySchema := haccepts.of_lookup hlookup rfl
  obtain ⟨parts, rfl, -⟩ := id hv
  simp [part?, hlookup, lookup_eq_name_of_decode hv rfl (Deploy.exists_target hdeploy)]

theorem part?_auth_of_ofDocument (h : ofDocument draft = .ok spec) :
    part? "features" "auth" draft = some (.string (Variant.name spec.features.auth)) := by
  obtain ⟨haccepts, hdecode⟩ := ofDocument_eq_ok_iff.1 h
  obtain ⟨members, rfl, -⟩ := id haccepts
  obtain ⟨-, -, ⟨v, hlookup, hfeatures⟩, -⟩ := decode_object_eq_ok_iff.1 hdecode
  have hv : Accepts v featuresSchema := haccepts.of_lookup hlookup rfl
  obtain ⟨parts, rfl, -⟩ := id hv
  simp [part?, hlookup, lookup_eq_name_of_decode hv rfl (Features.exists_auth hfeatures)]

theorem exists_runtime_of_ofDocument (h : ofDocument draft = .ok spec) :
    ∃ members runtime, draft = .object members ∧
      members.lookup "runtime" = some (.object runtime) ∧
      runtime.lookup "renderMode" = some (.string (Variant.name spec.runtime.renderMode)) := by
  obtain ⟨haccepts, hdecode⟩ := ofDocument_eq_ok_iff.1 h
  obtain ⟨members, rfl, -⟩ := id haccepts
  obtain ⟨-, -, -, ⟨v, hlookup, hruntime⟩, -⟩ := decode_object_eq_ok_iff.1 hdecode
  have hv : Accepts v runtimeSchema := haccepts.of_lookup hlookup rfl
  obtain ⟨parts, rfl, -⟩ := id hv
  have hmode := (Runtime.decode_object_eq_ok_iff.1 hruntime).1
  exact ⟨members, parts, rfl, hlookup, lookup_eq_name_of_decode hv rfl hmode⟩

/-! ## What the repair of a draft does -/

/-- The render mode that a draft's target and sign-in leave no choice about. -/
def forcedMode? (draft : Json) : Option RenderMode :=
  (target? draft).bind fun target ↦ forcedRenderMode target (wantsAuth draft)

theorem string?_eq_some_iff {v : Json} {text : String} : string? v = some text ↔ v = .string text := by
  cases v <;> simp [string?]

/-- All that the repair can do: it leaves a draft alone that has the forced mode, if one is forced,
or it warns and writes that mode. -/
theorem repair_steps (draft : Json) :
    (repair draft = pure draft ∧ ∀ mode ∈ forcedMode? draft, ∀ runtime ∈ runtimeMembers? draft,
      runtime.lookup "renderMode" = some (.string (Variant.name mode))) ∨
    ∃ target mode runtime current, forcedMode? draft = some mode ∧
      runtimeMembers? draft = some runtime ∧
      (runtime.lookup "renderMode").bind string? ≠ some (Variant.name mode) ∧
      repair draft =
        ⟨withRuntime (Table.insert "renderMode" (.string (Variant.name mode)) runtime) draft,
          [⟨"draft render mode overridden by deploy target",
            [("deploy", Variant.name (target : DeployTarget)), ("from", current),
              ("to", Variant.name mode)]⟩]⟩ := by
  unfold repair forcedMode?
  cases target? draft with
  | none => simp
  | some target =>
    cases hmode : forcedRenderMode target (wantsAuth draft) with
    | none => simp [hmode]
    | some mode =>
      cases hruntime : runtimeMembers? draft with
      | none => simp [hmode]
      | some runtime =>
        by_cases hcurrent : (runtime.lookup "renderMode").bind string? = some (Variant.name mode)
        · simp_all [Option.bind_eq_some_iff, string?_eq_some_iff]
        · simp only [hmode, hcurrent, if_false]
          exact .inr ⟨target, mode, runtime, _, hmode, rfl, hcurrent, rfl⟩

/-- The repair leaves a draft as it is, or writes the forced mode into a runtime that lacks it. -/
theorem repair_cases (draft : Json) :
    ((repair draft).value = draft ∧ ∀ mode ∈ forcedMode? draft, ∀ runtime ∈ runtimeMembers? draft,
      runtime.lookup "renderMode" = some (.string (Variant.name mode))) ∨
    ∃ mode runtime, forcedMode? draft = some mode ∧ runtimeMembers? draft = some runtime ∧
      (repair draft).value =
        withRuntime (Table.insert "renderMode" (.string (Variant.name mode)) runtime) draft := by
  obtain ⟨hpure, hset⟩ | ⟨target, mode, runtime, current, hmode, hruntime, -, hrepair⟩ :=
    repair_steps draft
  · left
    rw [hpure]
    exact ⟨rfl, hset⟩
  · right
    rw [hrepair]
    exact ⟨mode, runtime, hmode, hruntime, rfl⟩

theorem exists_object_of_forcedMode? {mode : RenderMode} (h : forcedMode? draft = some mode) :
    ∃ members, draft = .object members := by
  cases draft with
  | object members => exact ⟨members, rfl⟩
  | _ => simp [forcedMode?, target?, part?, member?] at h

theorem part?_withRuntime {outer : String} (houter : outer ≠ "runtime") (inner : String)
    (runtime : List (String × Json)) (draft : Json) :
    part? outer inner (withRuntime runtime draft) = part? outer inner draft := by
  cases draft with
  | object members => simp [part?, withRuntime, Table.lookup_insert_of_ne houter]
  | _ => rfl

/-- Target and sign-in stand outside the runtime, so its repair does not change the rule. -/
theorem forcedMode?_withRuntime (runtime : List (String × Json)) (draft : Json) :
    forcedMode? (withRuntime runtime draft) = forcedMode? draft := by
  have htarget := part?_withRuntime (by simp : "deploy" ≠ "runtime") "target" runtime draft
  have hauth := part?_withRuntime (by simp : "features" ≠ "runtime") "auth" runtime draft
  simp only [forcedMode?, target?, wantsAuth, htarget, hauth]

theorem runtimeMembers?_withRuntime {members runtime : List (String × Json)} :
    runtimeMembers? (withRuntime runtime (.object members)) = some runtime := by
  simp [runtimeMembers?, withRuntime, member?]

theorem repair_eq_self {mode : RenderMode} {runtime : List (String × Json)}
    (hmode : forcedMode? draft = some mode) (hruntime : runtimeMembers? draft = some runtime)
    (hset : runtime.lookup "renderMode" = some (.string (Variant.name mode))) :
    repair draft = pure draft := by
  obtain ⟨target, htarget, hforced⟩ := Option.bind_eq_some_iff.mp hmode
  simp [repair, htarget, hforced, hruntime, hset]

theorem repair_repair_value (draft : Json) :
    (repair (repair draft).value).value = (repair draft).value := by
  obtain ⟨hvalue, -⟩ | ⟨mode, runtime, hmode, -, hvalue⟩ := repair_cases draft
  · rw [hvalue, hvalue]
  · obtain ⟨members, rfl⟩ := exists_object_of_forcedMode? hmode
    rw [hvalue, repair_eq_self ((forcedMode?_withRuntime _ _).trans hmode)
      runtimeMembers?_withRuntime (Table.lookup_insert_self _ _ _)]
    rfl

/-! ## The two repairs agree -/

theorem forcedMode?_of_ofDocument (h : ofDocument draft = .ok spec) :
    forcedMode? draft = spec.forcedMode? := by
  have htarget : target? draft = some spec.deploy.target := by
    simp [target?, part?_target_of_ofDocument h, Variant.ofName?_name]
  have hauth : wantsAuth draft = spec.requiresAuth := by
    have hname : Variant.name spec.features.auth = Variant.name AuthMode.none ↔
        spec.features.auth = AuthMode.none :=
      ⟨Variant.name_injective _ _, congrArg _⟩
    simp [wantsAuth, part?_auth_of_ofDocument h, requiresAuth, hname, bne]
    rfl
  rw [forcedMode?, AppSpec.forcedMode?, htarget, hauth, Option.bind_some]

/-- Writing a render mode into an accepted draft changes the render mode of its specification and
nothing else. -/
theorem ofDocument_withRuntime {members runtime : List (String × Json)}
    (h : ofDocument (.object members) = .ok spec)
    (hruntime : members.lookup "runtime" = some (.object runtime)) (mode : RenderMode) :
    ofDocument (withRuntime (Table.insert "renderMode" (.string (Variant.name mode)) runtime)
      (.object members)) = .ok (spec.withRenderMode mode) := by
  obtain ⟨haccepts, hdecode⟩ := ofDocument_eq_ok_iff.1 h
  obtain ⟨hmodeFits, hmodeRead⟩ : Accepts (.string (Variant.name mode)) (choice RenderMode) ∧
      decodeVariant (.string (Variant.name mode)) = .ok mode :=
    ⟨⟨_, List.mem_map_of_mem (Variant.mem_all mode), rfl⟩,
      (Describes.choice RenderMode).decode_encode mode⟩
  refine ofDocument_eq_ok_iff.2 ⟨?_, ?_⟩
  · have hfits : Accepts (.object runtime) runtimeSchema := haccepts.of_lookup hruntime rfl
    exact haccepts.insert rfl (hfits.insert rfl hmodeFits)
  · obtain ⟨hblueprint, happ, hfeatures, ⟨v, hv, hread⟩, hdeploy⟩ :=
      decode_object_eq_ok_iff.1 hdecode
    obtain rfl : v = .object runtime := Option.some.inj (hv.symm.trans hruntime)
    obtain ⟨-, hdatabase⟩ := Runtime.decode_object_eq_ok_iff.1 hread
    have hwritten : Runtime.decode
        (.object (Table.insert "renderMode" (.string (Variant.name mode)) runtime)) =
          .ok (spec.withRenderMode mode).runtime := by
      refine Runtime.decode_object_eq_ok_iff.2 ⟨⟨_, Table.lookup_insert_self _ _ _, hmodeRead⟩, ?_⟩
      rw [Table.lookup_insert_of_ne (by simp)]
      exact hdatabase
    refine decode_object_eq_ok_iff.2
      ⟨?_, ?_, ?_, ⟨_, Table.lookup_insert_self _ _ _, hwritten⟩, ?_⟩ <;>
    · rw [Table.lookup_insert_of_ne (by simp)]
      assumption

/-- Repairing a draft that is accepted already is settling the mode of its specification. -/
theorem ofDocument_repair_value (h : ofDocument draft = .ok spec) :
    ofDocument (repair draft).value = .ok spec.settleRenderMode.value := by
  have hforced := forcedMode?_of_ofDocument h
  obtain ⟨members, runtime, rfl, hlookup, hmode⟩ := exists_runtime_of_ofDocument h
  have hruntime : runtimeMembers? (.object members) = some runtime := by
    simp [runtimeMembers?, hlookup]
  rw [settleRenderMode_value, ← hforced]
  obtain ⟨hvalue, hset⟩ | ⟨mode, parts, hsome, hparts, hvalue⟩ := repair_cases (.object members)
  · rw [hvalue, h]
    cases hcase : forcedMode? (.object members) with
    | none => rfl
    | some mode =>
      have hfound := hset mode hcase runtime hruntime
      have hname := Json.string.inj (Option.some.inj (hmode.symm.trans hfound))
      have hsame : spec.runtime.renderMode = mode := Variant.name_injective _ _ hname
      subst hsame
      rfl
  · obtain rfl : parts = runtime := Option.some.inj (hparts.symm.trans hruntime)
    rw [hvalue, ofDocument_withRuntime h hlookup mode, hsome, Option.elim_some]

/-- What was read from a repaired draft has the forced mode: another repair of the draft, which does
nothing, would set it. -/
theorem settleRenderMode_of_ofDocument_repair (h : ofDocument (repair draft).value = .ok spec) :
    spec.settleRenderMode = pure spec := by
  have hagain := ofDocument_repair_value h
  rw [repair_repair_value, h] at hagain
  have hvalue : spec.settleRenderMode.value = spec := (Except.ok.inj hagain).symm
  refine settleRenderMode_eq_pure_iff.2 fun mode hmode ↦ ?_
  rw [← hvalue] at hmode ⊢
  exact renderMode_settleRenderMode hmode

/-! ## What the repair touches -/

variable {members runtime : List (String × Json)} {value : Json}

theorem runtimeMembers?_eq_some_iff :
    runtimeMembers? (.object members) = some runtime ↔
      members.lookup "runtime" = some (.object runtime) ∨
        members.lookup "runtime" = none ∧ runtime = [] := by
  cases hlookup : members.lookup "runtime" with
  | none => simp [runtimeMembers?, hlookup, eq_comm]
  | some v => cases v <;> simp [runtimeMembers?, hlookup]

theorem put_eq_withRuntime (hruntime : runtimeMembers? (.object members) = some runtime) :
    put value ["runtime", "renderMode"] (.object members) =
      withRuntime (Table.insert "renderMode" value runtime) (.object members) := by
  obtain hlookup | ⟨hlookup, rfl⟩ := runtimeMembers?_eq_some_iff.1 hruntime
  · simp [put, withRuntime, hlookup]
  · simp [put, withRuntime, hlookup]

/-- What is there already need not be written. -/
theorem withRuntime_eq_self (hordered : (object members).Ordered)
    (hruntime : runtimeMembers? (.object members) = some runtime)
    (hset : runtime.lookup "renderMode" = some value) :
    withRuntime (Table.insert "renderMode" value runtime) (.object members) = .object members := by
  obtain hlookup | ⟨-, rfl⟩ := runtimeMembers?_eq_some_iff.1 hruntime
  · have hincreasing := (ordered_object_iff.1 hordered).1
    have hparts := (ordered_object_iff.1 (hordered.of_lookup hlookup)).1
    rw [withRuntime, Table.insert_eq_self hparts hset, Table.insert_eq_self hincreasing hlookup]
  · simp at hset

theorem put_eq_self (hordered : (object members).Ordered)
    (hruntime : runtimeMembers? (.object members) = none) :
    put value ["runtime", "renderMode"] (.object members) = .object members := by
  unfold runtimeMembers? member? at hruntime
  have hincreasing := (ordered_object_iff.1 hordered).1
  cases hlookup : members.lookup "runtime" with
  | none => simp [hlookup] at hruntime
  | some v =>
    cases v with
    | object parts => simp [hlookup] at hruntime
    | _ => simp [put, hlookup, Table.insert_eq_self hincreasing hlookup]

/-- In a draft with ordered members the repair is an assignment at one path. -/
theorem repair_value_eq_put {mode : RenderMode} (hordered : draft.Ordered)
    (hmode : forcedMode? draft = some mode) :
    (repair draft).value = put (.string (Variant.name mode)) ["runtime", "renderMode"] draft := by
  obtain ⟨members, rfl⟩ := exists_object_of_forcedMode? hmode
  obtain ⟨hvalue, hset⟩ | ⟨forced, runtime, hforced, hruntime, hvalue⟩ :=
    repair_cases (.object members)
  · rw [hvalue]
    cases hruntime : runtimeMembers? (.object members) with
    | none => rw [put_eq_self hordered hruntime]
    | some runtime =>
      rw [put_eq_withRuntime hruntime,
        withRuntime_eq_self hordered hruntime (hset mode hmode runtime hruntime)]
  · obtain rfl : forced = mode := Option.some.inj (hforced.symm.trans hmode)
    rw [hvalue, put_eq_withRuntime hruntime]

/-- In a draft that has a runtime nothing but the render mode changes. -/
theorem without_repair_value (hordered : draft.Ordered) (hsome : (draft.member? "runtime").isSome) :
    without ["runtime", "renderMode"] (repair draft).value =
      without ["runtime", "renderMode"] draft := by
  obtain ⟨hvalue, -⟩ | ⟨mode, runtime, hmode, hruntime, hvalue⟩ := repair_cases draft
  · rw [hvalue]
  · obtain ⟨members, rfl⟩ := exists_object_of_forcedMode? hmode
    obtain hlookup | ⟨hnone, -⟩ := runtimeMembers?_eq_some_iff.1 hruntime
    · rw [hvalue]
      exact adjust_insert (ordered_object_iff.1 hordered).1 hlookup (without_insert_self _ _ _)
    · simp [hnone] at hsome

/-- In a draft without a runtime the repair can only make one, with the forced mode alone. -/
theorem repair_value_of_no_runtime (hnone : draft.member? "runtime" = none) :
    (repair draft).value = draft ∨
      ∃ mode, forcedMode? draft = some mode ∧
        (repair draft).value.member? "runtime" =
          some (.object [("renderMode", .string (Variant.name mode))]) ∧
        without ["runtime"] (repair draft).value = draft := by
  obtain ⟨hvalue, -⟩ | ⟨mode, runtime, hmode, hruntime, hvalue⟩ := repair_cases draft
  · exact .inl hvalue
  · obtain ⟨members, rfl⟩ := exists_object_of_forcedMode? hmode
    obtain hlookup | ⟨hlookup, rfl⟩ := runtimeMembers?_eq_some_iff.1 hruntime
    · simp [hlookup] at hnone
    · refine .inr ⟨mode, hmode, ?_, ?_⟩
      · rw [hvalue]
        exact Table.lookup_insert_self _ _ _
      · rw [hvalue, withRuntime, without_insert_self, without_eq_self hlookup]

/-- The repair of a draft does what settling the render mode of its specification does, whether the
draft could be read before or not, and touches nothing but the render mode. -/
theorem repair_simulates_settleRenderMode (draft : Json) :
    (∀ spec, ofDocument draft = .ok spec →
      ofDocument (repair draft).value = .ok spec.settleRenderMode.value) ∧
    (∀ spec, ofDocument (repair draft).value = .ok spec → spec.settleRenderMode = pure spec) ∧
    (draft.Ordered → ∀ mode spec, forcedMode? draft = some mode →
      ofDocument (put (.string (Variant.name mode)) ["runtime", "renderMode"] draft) = .ok spec →
        ofDocument (repair draft).value = .ok spec) ∧
    (repair (repair draft).value).value = (repair draft).value ∧
    (draft.Ordered → (draft.member? "runtime").isSome →
      without ["runtime", "renderMode"] (repair draft).value =
        without ["runtime", "renderMode"] draft) ∧
    (draft.member? "runtime" = none → (repair draft).value = draft ∨
      ∃ mode, forcedMode? draft = some mode ∧
        (repair draft).value.member? "runtime" =
          some (.object [("renderMode", .string (Variant.name mode))]) ∧
        without ["runtime"] (repair draft).value = draft) := by
  refine ⟨fun _ ↦ ofDocument_repair_value, fun _ ↦ settleRenderMode_of_ofDocument_repair, ?_,
    repair_repair_value draft, without_repair_value, repair_value_of_no_runtime⟩
  intro hordered mode spec hmode hput
  rw [repair_value_eq_put hordered hmode]
  exact hput

/-- A draft for a static host that asks for pages from a server. -/
def misplacedDraft : Json :=
  .object
    [("app", .object
        [("name", .string "Recipes"), ("purpose", .string "Share recipes"),
          ("roles", .array [.string "cook"])]),
      ("blueprint", .string "web_app"),
      ("deploy", .object [("target", .string "github_pages")]),
      ("features", .object
        [("auth", .string "none"), ("pages", .array [.string "/"])]),
      ("runtime", .object [("database", .string "none"), ("renderMode", .string "ssr")])]

def misplacedSpec : AppSpec where
  blueprint := .webApp
  app := { name := "Recipes", purpose := "Share recipes", roles := ["cook"], entities := [] }
  features := { auth := .none, pages := [.path "/"], integrations := [] }
  runtime := { renderMode := .server, database := .none }
  deploy := { target := .githubPages }

theorem misplacedDraft_repair_simulates_settleRenderMode :
    ofDocument (repair misplacedDraft).value = .ok misplacedSpec.settleRenderMode.value ∧
    (misplacedSpec.withRenderMode .static).settleRenderMode =
      pure (misplacedSpec.withRenderMode .static) ∧
    ofDocument (repair misplacedDraft).value = .ok (misplacedSpec.withRenderMode .static) ∧
    without ["runtime", "renderMode"] (repair misplacedDraft).value =
      without ["runtime", "renderMode"] misplacedDraft ∧
    ((repair (.object [])).value = .object [] ∨
      ∃ mode, forcedMode? (.object []) = some mode ∧
        (repair (.object [])).value.member? "runtime" =
          some (.object [("renderMode", .string (Variant.name mode))]) ∧
        without ["runtime"] (repair (.object [])).value = .object []) := by
  have hordered : misplacedDraft.Ordered := by decide
  obtain ⟨haccepted, hrepaired, hput, -, hframe, -⟩ :=
    repair_simulates_settleRenderMode misplacedDraft
  have hresult := hput hordered .static (misplacedSpec.withRenderMode .static) rfl rfl
  refine ⟨haccepted misplacedSpec rfl, hrepaired _ hresult, hresult,
    hframe hordered rfl, ?_⟩
  exact (repair_simulates_settleRenderMode (.object [])).2.2.2.2.2 rfl

end Draft

end WebScaffold
