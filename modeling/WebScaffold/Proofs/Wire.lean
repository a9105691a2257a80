import WebScaffold.Proofs.Describes
import WebScaffold.Spec.Validate

/-!
# Reading and writing specifications

The schema, the decoder and the encoder of specifications agree part by part. Most parts are
written just as they are read. Three members are not: entities and integrations are always
written, and a domain that is null is left out. All else, the free-form configuration of
integrations included, comes back as it was.
-/

namespace WebScaffold

open Json Schema

/-! ## Parts that are written as they are read -/

theorem strings_describe (minItems minLength : Option Nat) :
    Describes (.list minItems (.text minLength)) decodeStrings ofStrings id :=
  (Describes.text minLength).list minItems

theorem AppSpec.filledText_describes : Describes AppSpec.filledText decodeString .string id :=
  .text _

theorem EntityField.describes :
    Describes AppSpec.fieldSchema EntityField.decode EntityField.encode id := by
  refine .definition "field" ⟨fun field ↦ ?_, fun v hv ↦ ?_⟩
  · have hvalues := elim_decodeOption_encode (strings_describe none none).decode_encode
      (by simp [ofStrings]) field.enumValues
    have hoptional := elim_decodeOption_encode Describes.flag.decode_encode (by simp) field.optional
    simp [EntityField.decode, EntityField.encode, requiredField_eq_value_iff,
      optionalField_eq_value_iff, Table.lookup_ofList, List.lookup_append, Table.lookup_cons,
      (Describes.choice FieldType).decode_encode, hvalues, hoptional]
  · obtain ⟨members, rfl, -⟩ := id hv
    obtain ⟨name, hname, hnameFits, hnameKept⟩ :=
      AppSpec.filledText_describes.exists_requiredField "name" hv (by simp) rfl
    obtain ⟨type, htype, htypeFits, htypeKept⟩ :=
      (Describes.choice FieldType).exists_requiredField "type" hv (by simp) rfl
    obtain ⟨values, hvalues, hvaluesFit, hvaluesKept⟩ :=
      (strings_describe none (some 1)).exists_optionalField "enumValues" (by simp) hv rfl
    obtain ⟨optional, hoptional, hoptionalFits, hoptionalKept⟩ :=
      Describes.flag.exists_optionalField "optional" (by simp) hv rfl
    refine ⟨⟨name, type, values, optional⟩, ?_, accepts_and_written_same hv ?_ (by simp)
      fun hordered ↦ ?_⟩
    · simp [EntityField.decode, hname, htype, hvalues, hoptional]
    · simp only [List.forall_mem_append, List.forall_mem_cons, forall_mem_optionalMember]
      exact ⟨⟨⟨hnameFits, htypeFits, by simp⟩, hvaluesFit⟩, hoptionalFits⟩
    · simp [Table.lookup_cons, List.lookup_append, hnameKept hordered, htypeKept hordered,
        hvaluesKept hordered, hoptionalKept hordered]

theorem Entity.describes : Describes AppSpec.entitySchema Entity.decode Entity.encode id := by
  refine .definition "entity" ⟨fun entity ↦ ?_, fun v hv ↦ ?_⟩
  · simp [Entity.decode, Entity.encode, requiredField_eq_value_iff, Table.lookup_ofList,
      Table.lookup_cons, ((EntityField.describes).list none).decode_encode]
  · obtain ⟨members, rfl, -⟩ := id hv
    obtain ⟨name, hname, hnameFits, hnameKept⟩ :=
      AppSpec.filledText_describes.exists_requiredField "name" hv (by simp) rfl
    obtain ⟨fields, hfields, hfieldsFit, hfieldsKept⟩ :=
      ((EntityField.describes).list none).exists_requiredField "fields" hv (by simp) rfl
    refine ⟨⟨name, fields⟩, ?_, accepts_and_written_same hv ?_ (by simp) fun hordered ↦ ?_⟩
    · simp [Entity.decode, hname, hfields]
    · simp only [List.forall_mem_cons]
      exact ⟨hnameFits, hfieldsFit, by simp⟩
    · simp [Table.lookup_cons, hnameKept hordered, hfieldsKept hordered]

theorem PageSection.describes :
    Describes AppSpec.sectionSchema PageSection.decode PageSection.encode id := by
  refine .definition "section" ⟨fun part ↦ ?_, fun v hv ↦ ?_⟩
  · have htext (text? : Option String) := elim_decodeOption_encode
      AppSpec.filledText_describes.decode_encode (by simp) text?
    have htexts (texts? : Option (List String)) := elim_decodeOption_encode
      (strings_describe none none).decode_encode (by simp [ofStrings]) texts?
    simp [PageSection.decode, PageSection.encode, requiredField_eq_value_iff,
      optionalField_eq_value_iff, Table.lookup_ofList, List.lookup_append, Table.lookup_cons,
      (Describes.choice SectionKind).decode_encode, htext, htexts]
  · obtain ⟨members, rfl, -⟩ := id hv
    obtain ⟨kind, hkind, hkindFits, hkindKept⟩ :=
      (Describes.choice SectionKind).exists_requiredField "kind" hv (by simp) rfl
    obtain ⟨headline, hheadline, hheadlineFits, hheadlineKept⟩ :=
      (Describes.text _).exists_optionalField "headline" (by simp) hv rfl
    obtain ⟨subhead, hsubhead, hsubheadFits, hsubheadKept⟩ :=
      (Describes.text _).exists_optionalField "subhead" (by simp) hv rfl
    obtain ⟨bullets, hbullets, hbulletsFit, hbulletsKept⟩ :=
      (strings_describe _ _).exists_optionalField "bullets" (by simp) hv rfl
    obtain ⟨fields, hfields, hfieldsFit, hfieldsKept⟩ :=
      (strings_describe _ _).exists_optionalField "fields" (by simp) hv rfl
    refine ⟨⟨kind, headline, subhead, bullets, fields⟩, ?_, accepts_and_written_same hv ?_ (by simp)
      fun hordered ↦ ?_⟩
    · simp [PageSection.decode, hkind, hheadline, hsubhead, hbullets, hfields]
    · simp only [List.forall_mem_append, List.forall_mem_cons, forall_mem_optionalMember]
      exact ⟨⟨⟨⟨⟨hkindFits, by simp⟩, hheadlineFits⟩, hsubheadFits⟩, hbulletsFit⟩, hfieldsFit⟩
    · simp [Table.lookup_cons, List.lookup_append, hkindKept hordered, hheadlineKept hordered,
        hsubheadKept hordered, hbulletsKept hordered, hfieldsKept hordered]

theorem PageSpec.describes :
    Describes AppSpec.detailedPageSchema PageSpec.decode PageSpec.encode id := by
  refine ⟨fun page ↦ ?_, fun v hv ↦ ?_⟩
  · have hentity := elim_decodeOption_encode AppSpec.filledText_describes.decode_encode (by simp)
      page.entity
    have hparts := elim_decodeOption_encode ((PageSection.describes).list none).decode_encode
      (by simp) page.sections
    simp [PageSpec.decode, PageSpec.encode, requiredField_eq_value_iff,
      optionalField_eq_value_iff, Table.lookup_ofList, List.lookup_append, Table.lookup_cons,
      (Describes.choice PagePurpose).decode_encode, hentity, hparts]
  · obtain ⟨members, rfl, -⟩ := id hv
    obtain ⟨path, hpath, hpathFits, hpathKept⟩ :=
      AppSpec.filledText_describes.exists_requiredField "path" hv (by simp) rfl
    obtain ⟨purpose, hpurpose, hpurposeFits, hpurposeKept⟩ :=
      (Describes.choice PagePurpose).exists_requiredField "purpose" hv (by simp) rfl
    obtain ⟨entity, hentity, hentityFits, hentityKept⟩ :=
      (Describes.text none).exists_optionalField "entity" (by simp) hv rfl
    obtain ⟨parts, hparts, hpartsFit, hpartsKept⟩ :=
      ((PageSection.describes).list (some 1)).exists_optionalField "sections" (by simp) hv
        rfl
    refine ⟨⟨path, purpose, entity, parts⟩, ?_, accepts_and_written_same hv ?_ (by simp)
      fun hordered ↦ ?_⟩
    · simp [PageSpec.decode, hpath, hpurpose, hentity, hparts]
    · simp only [List.forall_mem_append, List.forall_mem_cons, forall_mem_optionalMember]
      exact ⟨⟨⟨hpathFits, hpurposeFits, by simp⟩, hentityFits⟩, hpartsFit⟩
    · simp [Table.lookup_cons, List.lookup_append, hpathKept hordered, hpurposeKept hordered,
        hentityKept hordered, hpartsKept hordered]

/-- A page is a text or an object, so the two ways to give it are never mixed up. -/
theorem PageDescriptor.describes :
    Describes AppSpec.pageSchema PageDescriptor.decode PageDescriptor.encode id := by
  refine .definition "page" ⟨fun page ↦ ?_, fun v hv ↦ ?_⟩
  · cases page with
    | path p => rfl
    | detailed page =>
      have htext : ∃ reason, decodeString page.encode = .error reason := ⟨_, rfl⟩
      obtain ⟨reason, hreason⟩ := htext
      simp only [PageDescriptor.encode, PageDescriptor.decode, hreason,
        (PageSpec.describes).decode_encode]
  · rcases hv with hv | hv | hv
    · obtain ⟨p, rfl, hp⟩ := id hv
      exact ⟨.path p, rfl, .inl hv, fun _ ↦ rfl⟩
    · obtain ⟨page, hpage, haccepts, hwritten⟩ := (PageSpec.describes).exists_decode v hv
      obtain ⟨members, rfl, -⟩ := id hv
      refine ⟨.detailed page, ?_, .inr (.inl haccepts), hwritten⟩
      simp only [PageDescriptor.decode, decodeString, hpage]
    · exact hv.elim

theorem Integration.describes :
    Describes AppSpec.integrationSchema Integration.decode Integration.encode id := by
  refine .definition "integration" ⟨fun integration ↦ ?_, fun v hv ↦ ?_⟩
  · have hname := elim_decodeOption_encode AppSpec.filledText_describes.decode_encode (by simp)
      integration.name
    have hconfig := elim_decodeOption_encode Describes.openRecord.decode_encode (by simp)
      integration.config
    simp [Integration.decode, Integration.encode, requiredField_eq_value_iff,
      optionalField_eq_value_iff, Table.lookup_ofList, List.lookup_append, Table.lookup_cons,
      (Describes.choice IntegrationProvider).decode_encode, hname, hconfig]
  · obtain ⟨members, rfl, -⟩ := id hv
    obtain ⟨provider, hprovider, hproviderFits, hproviderKept⟩ :=
      (Describes.choice IntegrationProvider).exists_requiredField "provider" hv (by simp) rfl
    obtain ⟨name, hname, hnameFits, hnameKept⟩ :=
      (Describes.text none).exists_optionalField "name" (by simp) hv rfl
    obtain ⟨config, hconfig, hconfigFits, hconfigKept⟩ :=
      Describes.openRecord.exists_optionalField "config" (by simp) hv rfl
    refine ⟨⟨provider, name, config⟩, ?_, accepts_and_written_same hv ?_ (by simp)
      fun hordered ↦ ?_⟩
    · simp [Integration.decode, hprovider, hname, hconfig]
    · simp only [List.forall_mem_append, List.forall_mem_cons, forall_mem_optionalMember]
      exact ⟨⟨⟨hproviderFits, by simp⟩, hnameFits⟩, hconfigFits⟩
    · simp [Table.lookup_cons, List.lookup_append, hproviderKept hordered, hnameKept hordered,
        hconfigKept hordered]

theorem Runtime.describes : Describes AppSpec.runtimeSchema Runtime.decode Runtime.encode id := by
  refine ⟨fun runtime ↦ ?_, fun v hv ↦ ?_⟩
  · simp [Runtime.decode, Runtime.encode, requiredField_eq_value_iff,
      Table.lookup_ofList, Table.lookup_cons, (Describes.choice RenderMode).decode_encode,
      (Describes.choice Database).decode_encode]
  · obtain ⟨members, rfl, -⟩ := id hv
    obtain ⟨mode, hmode, hmodeFits, hmodeKept⟩ :=
      (Describes.choice RenderMode).exists_requiredField "renderMode" hv (by simp) rfl
    obtain ⟨database, hdatabase, hdatabaseFits, hdatabaseKept⟩ :=
      (Describes.choice Database).exists_requiredField "database" hv (by simp) rfl
    refine ⟨⟨mode, database⟩, ?_, accepts_and_written_same hv ?_ (by simp) fun hordered ↦ ?_⟩
    · simp [Runtime.decode, hmode, hdatabase]
    · simp only [List.forall_mem_cons]
      exact ⟨hmodeFits, hdatabaseFits, by simp⟩
    · simp [Table.lookup_cons, hmodeKept hordered, hdatabaseKept hordered]

/-! ## Parts that are written with a difference -/

theorem App.describes :
    Describes AppSpec.appSchema App.decode App.encode (supply "entities" (.array [])) := by
  refine ⟨fun app ↦ ?_, fun v hv ↦ ?_⟩
  · simp [App.decode, App.encode, requiredField_eq_value_iff,
      defaultedField_eq_value_iff, Table.lookup_ofList, Table.lookup_cons,
      (strings_describe none none).decode_encode, ((Entity.describes).list none).decode_encode]
  · obtain ⟨members, rfl, -⟩ := id hv
    obtain ⟨name, hname, hnameFits, hnameKept⟩ :=
      AppSpec.filledText_describes.exists_requiredField "name" hv (by simp) rfl
    obtain ⟨purpose, hpurpose, hpurposeFits, hpurposeKept⟩ :=
      AppSpec.filledText_describes.exists_requiredField "purpose" hv (by simp) rfl
    obtain ⟨roles, hroles, hrolesFit, hrolesKept⟩ :=
      (strings_describe (some 1) (some 1)).exists_requiredField "roles" hv (by simp) rfl
    obtain ⟨entities, hentities, hentitiesFit, hentitiesKept⟩ :=
      ((Entity.describes).list none).exists_defaultedField "entities" []
        (by simp) hv rfl
    refine ⟨⟨name, purpose, roles, entities⟩, ?_, accepts_and_written hv ?_ (by simp)
      fun hordered ↦ ?_⟩
    · simp [App.decode, hname, hpurpose, hroles, hentities]
    · simp only [List.forall_mem_cons]
      exact ⟨hnameFits, hpurposeFits, hrolesFit, hentitiesFit, by simp⟩
    · obtain ⟨supplied, heq, hincreasing, hlookup⟩ := exists_supply_object "entities" (.array [])
        (ordered_object_iff.1 hordered).1
      have hkept := hentitiesKept hordered
      simp only [List.map_nil] at hkept
      refine ⟨supplied, heq, hincreasing, fun key hkey ↦ ?_, ?_⟩
      · have hne : key ≠ "entities" := by
          rintro rfl
          exact hkey (by simp)
        rw [hlookup, if_neg hne]
      · simp [hlookup, Table.lookup_cons, hnameKept hordered, hpurposeKept hordered,
          hrolesKept hordered, hkept]

theorem Features.describes :
    Describes AppSpec.featuresSchema Features.decode Features.encode
      (supply "integrations" (.array [])) := by
  refine ⟨fun features ↦ ?_, fun v hv ↦ ?_⟩
  · have hflag (flag? : Option Bool) :=
      elim_decodeOption_encode Describes.flag.decode_encode (by simp) flag?
    simp [Features.decode, Features.encode, requiredField_eq_value_iff,
      optionalField_eq_value_iff, defaultedField_eq_value_iff, Table.lookup_ofList,
      List.lookup_append, Table.lookup_cons, (Describes.choice AuthMode).decode_encode,
      ((PageDescriptor.describes).list none).decode_encode,
      ((Integration.describes).list none).decode_encode, hflag]
  · obtain ⟨members, rfl, -⟩ := id hv
    obtain ⟨auth, hauth, hauthFits, hauthKept⟩ :=
      (Describes.choice AuthMode).exists_requiredField "auth" hv (by simp) rfl
    obtain ⟨pages, hpages, hpagesFit, hpagesKept⟩ :=
      ((PageDescriptor.describes).list (some 1)).exists_requiredField "pages" hv (by simp) rfl
    obtain ⟨uploads, huploads, huploadsFits, huploadsKept⟩ :=
      Describes.flag.exists_optionalField "uploads" (by simp) hv rfl
    obtain ⟨emails, hemails, hemailsFits, hemailsKept⟩ :=
      Describes.flag.exists_optionalField "emails" (by simp) hv rfl
    obtain ⟨payments, hpayments, hpaymentsFits, hpaymentsKept⟩ :=
      Describes.flag.exists_optionalField "payments" (by simp) hv rfl
    obtain ⟨integrations, hintegrations, hintegrationsFit, hintegrationsKept⟩ :=
      ((Integration.describes).list none).exists_defaultedField "integrations" []
        (by simp) hv rfl
    refine ⟨⟨auth, pages, uploads, emails, payments, integrations⟩, ?_,
      accepts_and_written hv ?_ (by simp) fun hordered ↦ ?_⟩
    · simp [Features.decode, hauth, hpages, huploads, hemails, hpayments, hintegrations]
    · simp only [List.forall_mem_append, List.forall_mem_cons, forall_mem_optionalMember]
      exact ⟨⟨⟨⟨⟨hauthFits, hpagesFit, by simp⟩, huploadsFits⟩, hemailsFits⟩, hpaymentsFits⟩,
        hintegrationsFit, by simp⟩
    · obtain ⟨supplied, heq, hincreasing, hlookup⟩ := exists_supply_object "integrations"
        (.array []) (ordered_object_iff.1 hordered).1
      have hkept := hintegrationsKept hordered
      simp only [List.map_nil] at hkept
      refine ⟨supplied, heq, hincreasing, fun key hkey ↦ ?_, ?_⟩
      · have hne : key ≠ "integrations" := by
          rintro rfl
          exact hkey (by simp)
        rw [hlookup, if_neg hne]
      · simp [hlookup, Table.lookup_cons, List.lookup_append, hauthKept hordered,
          hpagesKept hordered, huploadsKept hordered, hemailsKept hordered,
          hpaymentsKept hordered, hkept]

/-- A domain may be null, which reads like a missing one. -/
theorem Deploy.exists_domain {members : List (String × Json)}
    (hv : Accepts (.object members) AppSpec.deploySchema) :
    ∃ domain, optionalField "domain" decodeString members = .value domain ∧
      (∀ text ∈ domain, Accepts (.string text) AppSpec.filledText) ∧
      (members.lookup "domain").filter (· ≠ .null) = domain.map .string := by
  simp only [optionalField_eq_value_iff]
  cases hlookup : members.lookup "domain" with
  | none => exact ⟨none, rfl, by simp, rfl⟩
  | some v =>
    rcases hv.of_lookup hlookup rfl with htext | hnull | hnone
    · obtain ⟨text, rfl, hlength⟩ := id htext
      exact ⟨some text, rfl, by simpa using htext, rfl⟩
    · obtain rfl : v = .null := hnull
      exact ⟨none, rfl, by simp, rfl⟩
    · exact hnone.elim

theorem Deploy.describes :
    Describes AppSpec.deploySchema Deploy.decode Deploy.encode (dropNull "domain") := by
  refine ⟨fun deploy ↦ ?_, fun v hv ↦ ?_⟩
  · have hdomain := elim_decodeOption_encode AppSpec.filledText_describes.decode_encode (by simp)
      deploy.domain
    simp [Deploy.decode, Deploy.encode, requiredField_eq_value_iff,
      optionalField_eq_value_iff, Table.lookup_ofList, List.lookup_append, Table.lookup_cons,
      (Describes.choice DeployTarget).decode_encode, hdomain]
  · obtain ⟨members, rfl, -⟩ := id hv
    obtain ⟨target, htarget, htargetFits, htargetKept⟩ :=
      (Describes.choice DeployTarget).exists_requiredField "target" hv (by simp) rfl
    obtain ⟨domain, hdomain, hdomainFits, hdomainKept⟩ := Deploy.exists_domain hv
    refine ⟨⟨target, domain⟩, ?_, accepts_and_written hv ?_ (by simp) fun hordered ↦ ?_⟩
    · simp [Deploy.decode, htarget, hdomain]
    · simp only [List.forall_mem_append, List.forall_mem_cons, forall_mem_optionalMember]
      exact ⟨⟨htargetFits, by simp⟩, fun text htext ↦
        acceptsMember_iff.2 ⟨_, rfl, .inl (hdomainFits text htext)⟩⟩
    · obtain ⟨kept, heq, hincreasing, hlookup⟩ :=
        exists_dropNull_object "domain" (ordered_object_iff.1 hordered).1
      refine ⟨kept, heq, hincreasing, fun key hkey ↦ ?_, ?_⟩
      · have hne : key ≠ "domain" := by
          rintro rfl
          exact hkey (by simp)
        rw [hlookup, if_neg hne]
      · rw [hdomainKept] at hlookup
        simp [hlookup, Table.lookup_cons, List.lookup_append, htargetKept hordered]

namespace AppSpec

/-- A document with the parts that are always written and without a null in the place of a domain. -/
def normalDocument (document : Json) : Json :=
  ((document.adjust "app" (supply "entities" (.array []))).adjust "features"
    (supply "integrations" (.array []))).adjust "deploy" (dropNull "domain")

theorem exists_normalDocument_object {members : List (String × Json)}
    (hincreasing : Table.Increasing members) :
    ∃ changed, normalDocument (.object members) = .object changed ∧ Table.Increasing changed ∧
      (∀ key, key ≠ "app" → key ≠ "features" → key ≠ "deploy" →
        changed.lookup key = members.lookup key) ∧
      changed.lookup "app" = (members.lookup "app").map (supply "entities" (.array [])) ∧
      changed.lookup "features" =
        (members.lookup "features").map (supply "integrations" (.array [])) ∧
      changed.lookup "deploy" = (members.lookup "deploy").map (dropNull "domain") := by
  obtain ⟨first, hfirst, hfirstIncreasing, hfirstLookup⟩ :=
    exists_adjust_object "app" (supply "entities" (.array [])) hincreasing
  obtain ⟨second, hsecond, hsecondIncreasing, hsecondLookup⟩ :=
    exists_adjust_object "features" (supply "integrations" (.array [])) hfirstIncreasing
  obtain ⟨third, hthird, hthirdIncreasing, hthirdLookup⟩ :=
    exists_adjust_object "deploy" (dropNull "domain") hsecondIncreasing
  refine ⟨third, by rw [normalDocument, hfirst, hsecond, hthird], hthirdIncreasing, ?_, ?_⟩
  · intro key happ hfeatures hdeploy
    rw [hthirdLookup, if_neg hdeploy, hsecondLookup, if_neg hfeatures, hfirstLookup, if_neg happ]
  · simp [hthirdLookup, hsecondLookup, hfirstLookup]

theorem describes : Describes schema decode encode normalDocument := by
  refine ⟨fun spec ↦ ?_, fun v hv ↦ ?_⟩
  · simp [decode, encode, requiredField_eq_value_iff, Table.lookup_ofList,
      Table.lookup_cons, (Describes.choice Blueprint).decode_encode, (App.describes).decode_encode,
      (Features.describes).decode_encode, (Runtime.describes).decode_encode,
      (Deploy.describes).decode_encode]
  · obtain ⟨members, rfl, -⟩ := id hv
    obtain ⟨blueprint, hblueprint, hblueprintFits, hblueprintKept⟩ :=
      (Describes.choice Blueprint).exists_requiredField "blueprint" hv (by simp) rfl
    obtain ⟨app, happ, happFits, happWritten⟩ :=
      (App.describes).exists_requiredField_written "app" hv (by simp) rfl
    obtain ⟨features, hfeatures, hfeaturesFit, hfeaturesWritten⟩ :=
      (Features.describes).exists_requiredField_written "features" hv (by simp) rfl
    obtain ⟨runtime, hruntime, hruntimeFits, hruntimeKept⟩ :=
      (Runtime.describes).exists_requiredField "runtime" hv (by simp) rfl
    obtain ⟨deploy, hdeploy, hdeployFits, hdeployWritten⟩ :=
      (Deploy.describes).exists_requiredField_written "deploy" hv (by simp) rfl
    refine ⟨⟨blueprint, app, features, runtime, deploy⟩, ?_, accepts_and_written hv ?_ (by simp)
      fun hordered ↦ ?_⟩
    · simp [decode, hblueprint, happ, hfeatures, hruntime, hdeploy]
    · simp only [List.forall_mem_cons]
      exact ⟨hblueprintFits, happFits, hfeaturesFit, hruntimeFits, hdeployFits, by simp⟩
    · obtain ⟨changed, heq, hincreasing, hsame, hchangedApp, hchangedFeatures, hchangedDeploy⟩ :=
        exists_normalDocument_object (ordered_object_iff.1 hordered).1
      refine ⟨changed, heq, hincreasing, fun key hkey ↦ ?_, ?_⟩
      · refine hsame key ?_ ?_ ?_ <;>
        · rintro rfl
          exact hkey (by simp)
      · have hchangedBlueprint := hsame "blueprint" (by simp) (by simp) (by simp)
        have hchangedRuntime := hsame "runtime" (by simp) (by simp) (by simp)
        simp [Table.lookup_cons, hchangedBlueprint, hchangedApp, hchangedFeatures, hchangedRuntime,
          hchangedDeploy, hblueprintKept hordered, happWritten hordered, hfeaturesWritten hordered,
          hruntimeKept hordered, hdeployWritten hordered]

/-- A document that fits the schema can be read, and what was read is written as the document in its
normal form; a specification that was written can be read, and is the same again. -/
theorem decode_and_encode_agree :
    (∀ document, schema.issues "" document = [] →
      ∃ spec, decode document = .ok spec ∧ ofDocument document = .ok spec ∧
        (document.Ordered → spec.encode = normalDocument document)) ∧
    ∀ spec : AppSpec, decode spec.encode = .ok spec := by
  constructor
  · intro document hissues
    have haccepts : Accepts document schema := (issues_eq_nil_iff "" document schema).mp hissues
    obtain ⟨spec, hdecode, -, hwritten⟩ := (describes).exists_decode document haccepts
    have hread : ofDocument document = .ok spec := by
      rw [ofDocument, hissues]
      simp only [hdecode, Except.mapError]
    exact ⟨spec, hdecode, hread, hwritten⟩
  · exact (describes).decode_encode

/-- A document without entities and with a null domain, a page given by its path, and an integration
that is configured freely. -/
def inventoryDocument : Json :=
  .object
    [("app", .object
        [("name", .string "Inventory"), ("purpose", .string "Track stock levels"),
          ("roles", .array [.string "clerk"])]),
      ("blueprint", .string "web_app"),
      ("deploy", .object [("domain", .null), ("target", .string "vercel")]),
      ("features", .object
        [("auth", .string "none"),
          ("integrations", .array [.object
            [("config", .object [("retries", .number (.integer 3))]),
              ("provider", .string "stripe")]]),
          ("pages", .array
            [.string "/items", .object [("path", .string "/"), ("purpose", .string "landing")]])]),
      ("runtime", .object [("database", .string "neon"), ("renderMode", .string "ssr")])]

theorem inventoryDocument_issues : schema.issues "" inventoryDocument = [] := by
  rfl

theorem inventoryDocument_ordered : inventoryDocument.Ordered := by
  decide

theorem inventoryDocument_decode_and_encode_agree :
    ∃ spec, decode inventoryDocument = .ok spec ∧ decode spec.encode = .ok spec ∧
      spec.encode = normalDocument inventoryDocument := by
  obtain ⟨spec, hdecode, -, hwritten⟩ :=
    decode_and_encode_agree.1 inventoryDocument inventoryDocument_issues
  exact ⟨spec, hdecode, decode_and_encode_agree.2 spec, hwritten inventoryDocument_ordered⟩

end AppSpec

end WebScaffold
