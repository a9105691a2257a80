import WebScaffold.Proofs.Draft

/-!
# Specifications that fit the schema

A specification conforms if the schema accepts it in its written form. Whatever was read from a
document conforms, and neither a repair nor another target changes that: written again with one
member changed, a record is the old one with a member put in, so that only the new member has to be
looked at. The texts that a repair adds are long enough by the tests it makes before it adds them.
-/

namespace WebScaffold

open Json Schema

section

variable {required : List String} {properties : List (String × Schema)}
variable {entries changed : List (String × Json)} {schema : Schema} {v : Json}

/-- Records that are written alike but for one member differ by an insertion. -/
theorem Json.ofMembers_eq_insert {key : String} (hnew : changed.reverse.lookup key = some v)
    (hold : ∀ other, other ≠ key → changed.reverse.lookup other = entries.reverse.lookup other) :
    ofMembers changed = .object (Table.insert key v (Table.ofList entries)) := by
  refine congrArg object (Table.ofList_eq_of_lookup
    (Table.increasing_insert key v (Table.increasing_ofList entries)) fun other ↦ ?_)
  rw [Table.lookup_insert, Table.lookup_ofList]
  split_ifs with hother
  · rw [hother, hnew]
  · exact hold other hother

/-- A written record is still accepted when one of its members is exchanged for another that fits. -/
theorem Schema.Accepts.exchange (key : String)
    (h : Accepts (ofMembers entries) (.record required properties))
    (hschema : properties.lookup key = some schema) (hv : Accepts v schema)
    (hnew : changed.reverse.lookup key = some v)
    (hold : ∀ other, other ≠ key → changed.reverse.lookup other = entries.reverse.lookup other) :
    Accepts (ofMembers changed) (.record required properties) := by
  rw [ofMembers_eq_insert hnew hold]
  exact h.insert hschema hv

theorem Schema.Accepts.of_written (key : String)
    (h : Accepts (ofMembers entries) (.record required properties))
    (hschema : properties.lookup key = some schema) (hv : entries.reverse.lookup key = some v) :
    Accepts v schema :=
  Accepts.of_lookup h ((Table.lookup_ofList entries key).trans hv) hschema

end

theorem Schema.accepts_encodeVariant {α : Type} [Variant α] (a : α) :
    Accepts (encodeVariant a) (AppSpec.choice α) :=
  ⟨_, List.mem_map_of_mem (Variant.mem_all a), rfl⟩

namespace AppSpec

/-- The schema accepts the written specification. -/
def Conforms (spec : AppSpec) : Prop :=
  Accepts spec.encode schema

variable {spec : AppSpec}

theorem Conforms.of_ofDocument {document : Json} (h : ofDocument document = .ok spec) :
    spec.Conforms := by
  obtain ⟨haccepts, hdecode⟩ := ofDocument_eq_ok_iff.1 h
  obtain ⟨found, hfound, hconforms, -⟩ := (describes).exists_decode document haccepts
  obtain rfl : found = spec := Except.ok.inj (hfound.symm.trans hdecode)
  exact hconforms

/-- A conforming specification is read back from what is written of it. -/
theorem Conforms.ofDocument_encode (h : spec.Conforms) : ofDocument spec.encode = .ok spec :=
  ofDocument_eq_ok_iff.2 ⟨h, (describes).decode_encode spec⟩

theorem Conforms.withTarget (h : spec.Conforms) (target? : Option DeployTarget) :
    (spec.withTarget target?).Conforms := by
  have hdeploy : Accepts spec.deploy.encode deploySchema := h.of_written "deploy" rfl rfl
  have hchanged : Accepts (spec.withTarget target?).deploy.encode deploySchema := by
    refine hdeploy.exchange "target" rfl
      (accepts_encodeVariant (spec.withTarget target?).deploy.target) ?_ fun other hother ↦ ?_
    · simp [List.lookup_append]
    · simp [Table.lookup_cons, List.lookup_append, hother, AppSpec.withTarget]
  refine h.exchange "deploy" rfl hchanged rfl fun other hother ↦ ?_
  simp [Table.lookup_cons, hother, AppSpec.withTarget]

theorem Conforms.withRenderMode (h : spec.Conforms) (mode : RenderMode) :
    (spec.withRenderMode mode).Conforms := by
  have hruntime : Accepts spec.runtime.encode runtimeSchema := h.of_written "runtime" rfl rfl
  have hchanged : Accepts (spec.withRenderMode mode).runtime.encode runtimeSchema := by
    refine hruntime.exchange "renderMode" rfl (accepts_encodeVariant _) rfl fun other hother ↦ ?_
    simp [Table.lookup_cons, hother, AppSpec.withRenderMode]
  refine h.exchange "runtime" rfl hchanged rfl fun other hother ↦ ?_
  simp [Table.lookup_cons, hother, AppSpec.withRenderMode]

theorem Conforms.settleRenderMode (h : spec.Conforms) : spec.settleRenderMode.value.Conforms := by
  rw [settleRenderMode_value]
  cases spec.forcedMode? with
  | none => exact h
  | some mode => exact h.withRenderMode mode

/-! ## Added sections -/

theorem accepts_usualHero (name purpose : String) :
    Accepts (usualHero name purpose).encode sectionSchema := by
  refine accepts_ofMembers ?_ (by simp)
  simp only [List.forall_mem_append, List.forall_mem_cons, forall_mem_optionalMember]
  refine ⟨⟨⟨⟨⟨?_, by simp⟩, fun headline hheadline ↦ ?_⟩, fun subhead hsubhead ↦ ?_⟩, ?_⟩, ?_⟩
  · exact acceptsMember_iff.2 ⟨_, rfl, accepts_encodeVariant SectionKind.hero⟩
  · obtain ⟨hlong, rfl⟩ : headlineMinimum ≤ ("Welcome to " ++ name).length ∧
        "Welcome to " ++ name = headline := by
      simpa [usualHero] using hheadline
    exact acceptsMember_iff.2 ⟨_, rfl, _, rfl, by simpa using hlong⟩
  · obtain ⟨hlong, rfl⟩ : subheadMinimum ≤ purpose.length ∧ purpose = subhead := by
      simpa [usualHero] using hsubhead
    exact acceptsMember_iff.2 ⟨_, rfl, _, rfl, by simpa using hlong⟩
  · simp [usualHero]
  · simp [usualHero]

theorem accepts_usualFeatures : Accepts usualFeatures.encode sectionSchema :=
  (issues_eq_nil_iff "" _ _).mp rfl

section

variable {hero : PageSection}

theorem accepts_completeSections (hkind : hero.kind = .hero)
    (hhero : Accepts hero.encode sectionSchema) {parts : List PageSection}
    (hparts : ∀ part ∈ parts, Accepts part.encode sectionSchema) :
    Accepts (.array ((completeSections hero parts).map PageSection.encode))
      (.list (some 1) sectionSchema) := by
  refine ⟨_, rfl, List.forall_mem_map.mpr fun part hpart ↦ ?_, fun least hleast ↦ ?_⟩
  · rw [completeSections_eq hkind, List.mem_append, List.mem_append] at hpart
    rcases hpart with (hfront | hwritten) | hback
    · have hnew : part = hero := by
        split_ifs at hfront
        · simp at hfront
        · simpa using hfront
      rw [hnew]
      exact hhero
    · exact hparts part hwritten
    · have hnew : part = usualFeatures := by
        split_ifs at hback
        · simp at hback
        · simpa using hback
      rw [hnew]
      exact accepts_usualFeatures
  · obtain rfl : 1 = least := Option.some.inj hleast
    obtain ⟨part, hpart, -⟩ := List.any_eq_true.mp (any_completeSections_hero hkind parts)
    rw [List.length_map]
    exact List.length_pos_of_mem hpart

theorem forall_mem_getD_sections {page : PageSpec} (hpage : Accepts page.encode detailedPageSchema) :
    ∀ part ∈ page.sections.getD [], Accepts part.encode sectionSchema := by
  cases hsections : page.sections with
  | none => simp
  | some parts =>
    have hwritten : Accepts (.array (parts.map PageSection.encode)) (.list (some 1) sectionSchema) :=
      hpage.of_written "sections" rfl (by simp [Table.lookup_cons, List.lookup_append, hsections])
    obtain ⟨items, heq, hitems, -⟩ := hwritten
    obtain rfl : parts.map PageSection.encode = items := Json.array.inj heq
    exact fun part hpart ↦ hitems _ (List.mem_map_of_mem hpart)

theorem accepts_encode_of_detailed {page : PageSpec}
    (h : Accepts (PageDescriptor.detailed page).encode pageSchema) :
    Accepts page.encode detailedPageSchema := by
  rcases h with ⟨text, htext, -⟩ | hrecord | hnone
  · simp [PageDescriptor.encode, PageSpec.encode, ofMembers] at htext
  · exact hrecord
  · exact hnone.elim

theorem accepts_completePage (hkind : hero.kind = .hero) (hhero : Accepts hero.encode sectionSchema)
    {page : PageDescriptor} (hpage : Accepts page.encode pageSchema) :
    Accepts (completePage hero page).encode pageSchema := by
  cases page with
  | path p => exact hpage
  | detailed page =>
    by_cases hpurpose : page.purpose = .landing
    · have hrecord := accepts_encode_of_detailed hpage
      have hparts := accepts_completeSections hkind hhero (forall_mem_getD_sections hrecord)
      rw [completePage, if_pos hpurpose]
      refine .inr (.inl (hrecord.exchange "sections" rfl hparts ?_ fun other hother ↦ ?_))
      · simp [Table.lookup_cons, List.lookup_append]
      · simp [Table.lookup_cons, List.lookup_append, hother]
    · rw [completePage, if_neg hpurpose]
      exact hpage

end

theorem Conforms.features (h : spec.Conforms) : Accepts spec.features.encode featuresSchema :=
  h.of_written "features" rfl rfl

theorem Conforms.pages (h : spec.Conforms) :
    Accepts (.array (spec.features.pages.map PageDescriptor.encode)) (.list (some 1) pageSchema) :=
  h.features.of_written "pages" rfl (by simp [Table.lookup_cons, List.lookup_append])

theorem Conforms.ensureSections (h : spec.Conforms) : spec.ensureSections.Conforms := by
  have hkind := usualHero_kind spec.app.name spec.app.purpose
  have hhero := accepts_usualHero spec.app.name spec.app.purpose
  have hcompleted : Accepts (.array (spec.ensureSections.features.pages.map PageDescriptor.encode))
      (.list (some 1) pageSchema) := by
    obtain ⟨items, heq, hitems, hlength⟩ := h.pages
    obtain rfl : spec.features.pages.map PageDescriptor.encode = items := Json.array.inj heq
    refine ⟨_, rfl, ?_, by simpa [AppSpec.ensureSections] using hlength⟩
    simp only [AppSpec.ensureSections, List.map_map, List.forall_mem_map]
    exact fun page hpage ↦
      accepts_completePage hkind hhero (hitems _ (List.mem_map_of_mem hpage))
  have hchanged : Accepts spec.ensureSections.features.encode featuresSchema := by
    refine h.features.exchange "pages" rfl hcompleted ?_ fun other hother ↦ ?_
    · simp [Table.lookup_cons, List.lookup_append]
    · simp [Table.lookup_cons, List.lookup_append, hother, AppSpec.ensureSections]
  refine h.exchange "features" rfl hchanged rfl fun other hother ↦ ?_
  simp [Table.lookup_cons, hother, AppSpec.ensureSections]

theorem Conforms.repair (h : spec.Conforms) : spec.repair.value.Conforms :=
  h.settleRenderMode.ensureSections

end AppSpec

end WebScaffold
