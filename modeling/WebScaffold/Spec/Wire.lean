import WebScaffold.Json.Decode
import WebScaffold.Spec.Basic

/-!
# Specifications as documents

How a specification is written as a Json document and read from one. Absent optional parts are left
out when writing, and may be missing or null when reading; entities and integrations are always
written and may be missing. A page is written as a bare path where it is one.
-/

namespace WebScaffold

open Json

/-! ## Writing -/

def encodeVariant {α : Type} [Variant α] (a : α) : Json :=
  .string (Variant.name a)

/-- The member of an optional part, if there is one. -/
def optionalMember {α : Type} (name : String) (encode : α → Json) :
    Option α → List (String × Json)
  | some a => [(name, encode a)]
  | none => []

def EntityField.encode (field : EntityField) : Json :=
  ofMembers <|
    [("name", .string field.name), ("type", encodeVariant field.type)] ++
      optionalMember "enumValues" ofStrings field.enumValues ++
      optionalMember "optional" .bool field.optional

def Entity.encode (entity : Entity) : Json :=
  ofMembers
    [("name", .string entity.name), ("fields", .array (entity.fields.map EntityField.encode))]

def App.encode (app : App) : Json :=
  ofMembers
    [("name", .string app.name), ("purpose", .string app.purpose), ("roles", ofStrings app.roles),
      ("entities", .array (app.entities.map Entity.encode))]

def PageSection.encode (part : PageSection) : Json :=
  ofMembers <|
    [("kind", encodeVariant part.kind)] ++
      optionalMember "headline" .string part.headline ++
      optionalMember "subhead" .string part.subhead ++
      optionalMember "bullets" ofStrings part.bullets ++
      optionalMember "fields" ofStrings part.fields

def PageSpec.encode (page : PageSpec) : Json :=
  ofMembers <|
    [("path", .string page.path), ("purpose", encodeVariant page.purpose)] ++
      optionalMember "entity" .string page.entity ++
      optionalMember "sections" (fun parts ↦ .array (parts.map PageSection.encode)) page.sections

def PageDescriptor.encode : PageDescriptor → Json
  | path p => .string p
  | detailed page => page.encode

def Integration.encode (integration : Integration) : Json :=
  ofMembers <|
    [("provider", encodeVariant integration.provider)] ++
      optionalMember "name" .string integration.name ++
      optionalMember "config" .object integration.config

def Features.encode (features : Features) : Json :=
  ofMembers <|
    [("auth", encodeVariant features.auth),
      ("pages", .array (features.pages.map PageDescriptor.encode))] ++
      optionalMember "uploads" .bool features.uploads ++
      optionalMember "emails" .bool features.emails ++
      optionalMember "payments" .bool features.payments ++
      [("integrations", .array (features.integrations.map Integration.encode))]

def Runtime.encode (runtime : Runtime) : Json :=
  ofMembers
    [("renderMode", encodeVariant runtime.renderMode), ("database", encodeVariant runtime.database)]

def Deploy.encode (deploy : Deploy) : Json :=
  ofMembers <|
    [("target", encodeVariant deploy.target)] ++ optionalMember "domain" .string deploy.domain

def AppSpec.encode (spec : AppSpec) : Json :=
  ofMembers
    [("blueprint", encodeVariant spec.blueprint), ("app", spec.app.encode),
      ("features", spec.features.encode), ("runtime", spec.runtime.encode),
      ("deploy", spec.deploy.encode)]

/-! ## Reading -/

def decodeStrings : Json → Except Mismatch (List String) :=
  decodeList decodeString

def EntityField.recordType : RecordType :=
  ⟨"EntityField", ["name", "type", "enumValues", "optional"]⟩

def EntityField.decode : Json → Except Mismatch EntityField :=
  decodeRecord recordType fun entries ↦
    (requiredField "name" decodeString entries).map EntityField.mk
      |>.and (requiredField "type" decodeVariant entries)
      |>.and (optionalField "enumValues" decodeStrings entries)
      |>.and (optionalField "optional" decodeBool entries)

def Entity.recordType : RecordType :=
  ⟨"Entity", ["name", "fields"]⟩

def Entity.decode : Json → Except Mismatch Entity :=
  decodeRecord recordType fun entries ↦
    (requiredField "name" decodeString entries).map Entity.mk
      |>.and (requiredField "fields" (decodeList EntityField.decode) entries)

def App.recordType : RecordType :=
  ⟨"App", ["name", "purpose", "roles", "entities"]⟩

def App.decode : Json → Except Mismatch App :=
  decodeRecord recordType fun entries ↦
    (requiredField "name" decodeString entries).map App.mk
      |>.and (requiredField "purpose" decodeString entries)
      |>.and (requiredField "roles" decodeStrings entries)
      |>.and (defaultedField "entities" [] (decodeList Entity.decode) entries)

def PageSection.recordType : RecordType :=
  ⟨"Section", ["kind", "headline", "subhead", "bullets", "fields"]⟩

def PageSection.decode : Json → Except Mismatch PageSection :=
  decodeRecord recordType fun entries ↦
    (requiredField "kind" decodeVariant entries).map PageSection.mk
      |>.and (optionalField "headline" decodeString entries)
      |>.and (optionalField "subhead" decodeString entries)
      |>.and (optionalField "bullets" decodeStrings entries)
      |>.and (optionalField "fields" decodeStrings entries)

def PageSpec.recordType : RecordType :=
  ⟨"PageSpec", ["path", "purpose", "entity", "sections"]⟩

def PageSpec.decode : Json → Except Mismatch PageSpec :=
  decodeRecord recordType fun entries ↦
    (requiredField "path" decodeString entries).map PageSpec.mk
      |>.and (requiredField "purpose" decodeVariant entries)
      |>.and (optionalField "entity" decodeString entries)
      |>.and (optionalField "sections" (decodeList PageSection.decode) entries)

/-- A page is a path or a record; what is neither is refused without saying why. -/
def PageDescriptor.decode (v : Json) : Except Mismatch PageDescriptor :=
  match decodeString v with
  | .ok p => .ok (.path p)
  | .error _ =>
    match PageSpec.decode v with
    | .ok page => .ok (.detailed page)
    | .error _ => .error (.noAlternative "PageDescriptor")

def Integration.recordType : RecordType :=
  ⟨"Integration", ["provider", "name", "config"]⟩

def Integration.decode : Json → Except Mismatch Integration :=
  decodeRecord recordType fun entries ↦
    (requiredField "provider" decodeVariant entries).map Integration.mk
      |>.and (optionalField "name" decodeString entries)
      |>.and (optionalField "config" decodeMembers entries)

def Features.recordType : RecordType :=
  ⟨"Features", ["auth", "pages", "uploads", "emails", "payments", "integrations"]⟩

def Features.decode : Json → Except Mismatch Features :=
  decodeRecord recordType fun entries ↦
    (requiredField "auth" decodeVariant entries).map Features.mk
      |>.and (requiredField "pages" (decodeList PageDescriptor.decode) entries)
      |>.and (optionalField "uploads" decodeBool entries)
      |>.and (optionalField "emails" decodeBool entries)
      |>.and (optionalField "payments" decodeBool entries)
      |>.and (defaultedField "integrations" [] (decodeList Integration.decode) entries)

def Runtime.recordType : RecordType :=
  ⟨"Runtime", ["renderMode", "database"]⟩

def Runtime.decode : Json → Except Mismatch Runtime :=
  decodeRecord recordType fun entries ↦
    (requiredField "renderMode" decodeVariant entries).map Runtime.mk
      |>.and (requiredField "database" decodeVariant entries)

def Deploy.recordType : RecordType :=
  ⟨"Deploy", ["target", "domain"]⟩

def Deploy.decode : Json → Except Mismatch Deploy :=
  decodeRecord recordType fun entries ↦
    (requiredField "target" decodeVariant entries).map Deploy.mk
      |>.and (optionalField "domain" decodeString entries)

def AppSpec.recordType : RecordType :=
  ⟨"AppSpec", ["blueprint", "app", "features", "runtime", "deploy"]⟩

def AppSpec.decode : Json → Except Mismatch AppSpec :=
  decodeRecord recordType fun entries ↦
    (requiredField "blueprint" decodeVariant entries).map AppSpec.mk
      |>.and (requiredField "app" App.decode entries)
      |>.and (requiredField "features" Features.decode entries)
      |>.and (requiredField "runtime" Runtime.decode entries)
      |>.and (requiredField "deploy" Deploy.decode entries)

end WebScaffold
