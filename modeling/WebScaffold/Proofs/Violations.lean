import WebScaffold.Proofs.DynamicSegment
import WebScaffold.Proofs.RepeatedNames
import WebScaffold.Proofs.SampleIds

/-!
# Violated rules

Which rules a specification violates is said here place by place: a page with a path that is none,
an entity or a field with the name of an earlier one, a field with values to choose from that is no
enum or the other way round. The second stage of validation lists just these violations, each of
them once, in the order of their places. So it lets a specification pass exactly when there is none.
-/

namespace WebScaffold

/-! ## Paths of pages -/

namespace Route

variable {path : String}

/-- An absolute path without forbidden characters. No name in it leads elsewhere, and a name with a
bracket in front is that of a parameter. -/
structure IsPagePath (path : String) : Prop where
  absolute : path.toList.head? = some '/'
  allowed : ∀ c ∈ path.toList, c ≠ '\\' ∧ c ≠ ':' ∧ c ≠ '\x00'
  inside : ∀ name ∈ namesOf path, name ≠ "." ∧ name ≠ ".."
  named : ∀ name ∈ namesOf path, name.toList.head? = some '[' →
    ∃ param, parseParam name.toList = some param

theorem isRelative_eq_false_iff {name : String} :
    isRelative name.toList = false ↔ name ≠ "." ∧ name ≠ ".." := by
  have hstay : name.toList = ".".toList ↔ name = "." := String.toList_inj
  have hup : name.toList = "..".toList ↔ name = ".." := String.toList_inj
  rw [isRelative, Bool.or_eq_false_iff, beq_eq_false_iff_ne, beq_eq_false_iff_ne]
  exact and_congr (not_congr hstay) (not_congr hup)

theorem isDynamic_iff {segment : List Char} : isDynamic segment ↔ segment.head? = some '[' :=
  beq_iff_eq

theorem any_isForbidden_eq_false_iff {cs : List Char} :
    cs.any isForbidden = false ↔ ∀ c ∈ cs, c ≠ '\\' ∧ c ≠ ':' ∧ c ≠ '\x00' := by
  simp [isForbidden, and_assoc]

theorem pathProblem?_eq_none_iff : pathProblem? path = none ↔ IsPagePath path := by
  have hsegments : (segmentsOf path.toList).findSome? segmentProblem? = none ↔
      ∀ name ∈ namesOf path, (name ≠ "." ∧ name ≠ "..") ∧
        (name.toList.head? = some '[' → ∃ param, parseParam name.toList = some param) := by
    rw [List.findSome?_eq_none_iff]
    constructor
    · intro h name hname
      have hsegment := segmentProblem?_eq_none_iff.1 (h _ (mem_namesOf_iff.1 hname))
      rw [isRelative_eq_false_iff, isDynamic_iff, Option.isSome_iff_exists] at hsegment
      exact hsegment
    · intro h segment hsegment
      have hname := h (String.ofList segment) (mem_namesOf_iff.2 (by rwa [String.toList_ofList]))
      rw [← isRelative_eq_false_iff, ← isDynamic_iff, ← Option.isSome_iff_exists,
        String.toList_ofList] at hname
      exact segmentProblem?_eq_none_iff.2 hname
  unfold pathProblem?
  dsimp only
  split_ifs with habsolute hforbidden
  · exact ⟨nofun, fun h ↦ absurd h.absolute habsolute⟩
  · refine ⟨nofun, fun h ↦ ?_⟩
    rw [any_isForbidden_eq_false_iff.2 h.allowed] at hforbidden
    cases hforbidden
  · rw [hsegments, forall₂_and]
    rw [Bool.not_eq_true] at hforbidden
    constructor
    · rintro ⟨hinside, hnamed⟩
      exact ⟨not_not.1 habsolute, any_isForbidden_eq_false_iff.1 hforbidden, hinside, hnamed⟩
    · intro h
      exact ⟨h.inside, h.named⟩

end Route

/-! ## Places of violations -/

/-- A violated rule with its place, and with the names that its message tells. -/
inductive Violation where
  | pagePath (place : Nat) (path : String)
  | entityName (place : Nat) (name : String)
  | fieldName (entityPlace place : Nat) (entity name : String)
  | enumValues (entityPlace place : Nat) (type : FieldType)
deriving DecidableEq, Repr

namespace Violation

/-- Pages come before entities, an entity's name before its fields, and a field's name before its
values. -/
def rank : Violation → List Nat
  | pagePath place _ => [0, place]
  | entityName place _ => [1, place, 0]
  | fieldName entityPlace place _ _ => [1, entityPlace, place + 1, 0]
  | enumValues entityPlace place _ => [1, entityPlace, place + 1, 1]

/-- The place in the document. -/
def path : Violation → String
  | pagePath place _ => s!"/features/pages/{place}"
  | entityName place _ => s!"/app/entities/{place}" ++ "/name"
  | fieldName entityPlace place _ _ =>
    s!"/app/entities/{entityPlace}" ++ s!"/fields/{place}" ++ "/name"
  | enumValues entityPlace place _ =>
    s!"/app/entities/{entityPlace}" ++ s!"/fields/{place}" ++ "/enumValues"

def message : Violation → String
  | pagePath _ path =>
    "page path '" ++ path ++ "' " ++ (Route.pathProblem? path).elim "" Route.PathProblem.message
  | entityName _ name => "duplicate entity name '" ++ name ++ "'"
  | fieldName _ _ entity name => "duplicate field '" ++ name ++ "' in entity '" ++ entity ++ "'"
  | enumValues _ _ type =>
    if type = .enum then "enum type requires enumValues"
    else "enumValues is only allowed when type is enum"

theorem message_pagePath (place : Nat) (path : String) : (pagePath place path).message =
    "page path '" ++ path ++ "' " ++
      (Route.pathProblem? path).elim "" Route.PathProblem.message := rfl

theorem message_enumValues (entityPlace place : Nat) (type : FieldType) :
    (enumValues entityPlace place type).message =
      if type = .enum then "enum type requires enumValues"
      else "enumValues is only allowed when type is enum" := rfl

def issue (violation : Violation) : Issue :=
  ⟨violation.path, violation.message⟩

end Violation

namespace AppSpec

/-- What it takes for a violation to be there. -/
inductive Violates (spec : AppSpec) : Violation → Prop
  | pagePath {place : Nat} {page : PageDescriptor}
      (hpage : spec.features.pages[place]? = some page)
      (hpath : ¬Route.IsPagePath page.pagePath) :
      Violates spec (.pagePath place page.pagePath)
  | entityName {place : Nat} {entity : Entity}
      (hentity : spec.app.entities[place]? = some entity)
      (hname : IsRepeated Entity.name spec.app.entities place entity) :
      Violates spec (.entityName place entity.name)
  | fieldName {entityPlace place : Nat} {entity : Entity} {field : EntityField}
      (hentity : spec.app.entities[entityPlace]? = some entity)
      (hfield : entity.fields[place]? = some field)
      (hname : IsRepeated EntityField.name entity.fields place field) :
      Violates spec (.fieldName entityPlace place entity.name field.name)
  | enumValues {entityPlace place : Nat} {entity : Entity} {field : EntityField}
      (hentity : spec.app.entities[entityPlace]? = some entity)
      (hfield : entity.fields[place]? = some field)
      (henum : ¬(field.type = .enum ↔ field.values ≠ [])) :
      Violates spec (.enumValues entityPlace place field.type)

/-- A specification without violations. -/
structure KeepsRules (spec : AppSpec) : Prop where
  paths : ∀ page ∈ spec.features.pages, Route.IsPagePath page.pagePath
  names : (spec.app.entities.map Entity.name).Nodup
  entities : ∀ entity ∈ spec.app.entities, entity.Regular

/-! ## The list of all violations -/

instance (path : String) : Decidable (Route.IsPagePath path) :=
  decidable_of_iff (Route.pathProblem? path = none) Route.pathProblem?_eq_none_iff

def violationsAtPage (place : Nat) (page : PageDescriptor) : List Violation :=
  if Route.IsPagePath page.pagePath then [] else [.pagePath place page.pagePath]

def violationsAtField (entityPlace : Nat) (entity : String) (isRepeated : Bool) (place : Nat)
    (field : EntityField) : List Violation :=
  (if isRepeated then [.fieldName entityPlace place entity field.name] else []) ++
    if field.type = .enum ↔ field.values ≠ [] then []
    else [.enumValues entityPlace place field.type]

def violationsAtEntity (isRepeated : Bool) (place : Nat) (entity : Entity) : List Violation :=
  (if isRepeated then [.entityName place entity.name] else []) ++
    entity.fields.zipIdx.flatMap fun (field, fieldPlace) ↦
      violationsAtField place entity.name
        (IsRepeated EntityField.name entity.fields fieldPlace field) fieldPlace field

def violations (spec : AppSpec) : List Violation :=
  (spec.features.pages.zipIdx.flatMap fun (page, place) ↦ violationsAtPage place page) ++
    spec.app.entities.zipIdx.flatMap fun (entity, place) ↦
      violationsAtEntity (IsRepeated Entity.name spec.app.entities place entity) place entity

theorem append_ne_empty {front : String} (h : front ≠ "") (back : String) : front ++ back ≠ "" := by
  intro hempty
  exact h (String.append_eq_empty_iff.1 hempty).1

theorem issue_eq_about (violation : Violation) :
    violation.issue = .about violation.path violation.message := by
  have hpages : "/features/pages/" ≠ "" := by decide
  have hentities : "/app/entities/" ≠ "" := by decide
  have hpath : violation.path ≠ "" := by
    cases violation with
    | pagePath place path => exact append_ne_empty hpages _
    | entityName place name => exact append_ne_empty (append_ne_empty hentities _) _
    | fieldName entityPlace place entity name =>
      exact append_ne_empty (append_ne_empty (append_ne_empty hentities _) _) _
    | enumValues entityPlace place type =>
      exact append_ne_empty (append_ne_empty (append_ne_empty hentities _) _) _
  rw [Issue.about, if_neg hpath, Violation.issue]

theorem map_issue_ite {p : Prop} [Decidable p] (violation : Violation) :
    (if decide p then [violation] else []).map Violation.issue =
      if p then [.about violation.path violation.message] else [] := by
  by_cases hp : p
  · rw [if_pos hp, if_pos (decide_eq_true hp), List.map_singleton, issue_eq_about]
  · rw [if_neg hp, decide_eq_false hp, if_neg Bool.false_ne_true, List.map_nil]

theorem enumIssues_eq (entityPlace place : Nat) (field : EntityField) :
    enumIssues (s!"/app/entities/{entityPlace}" ++ s!"/fields/{place}") field =
      (if field.type = .enum ↔ field.values ≠ [] then []
        else [Violation.enumValues entityPlace place field.type]).map Violation.issue := by
  split_ifs with henum
  · exact enumIssues_eq_nil_iff.2 henum
  · rw [List.map_singleton, issue_eq_about]
    by_cases htype : field.type = .enum
    · have hvalues : field.values = [] := by
        by_contra hne
        exact henum (iff_of_true htype hne)
      rw [enumIssues, htype, hvalues]
      rfl
    · have hvalues : field.values ≠ [] := by
        intro hnil
        exact henum (iff_of_false htype fun hne ↦ hne hnil)
      rw [enumIssues, beq_eq_false_iff_ne.2 htype, List.isEmpty_eq_false_iff.2 hvalues,
        Violation.message_enumValues, if_neg htype]
      rfl

theorem fieldIssues_cons (entityPlace : Nat) (entity : String) (seen : List String) (place : Nat)
    (field : EntityField) (fields : List EntityField) :
    fieldIssues s!"/app/entities/{entityPlace}" entity seen place (field :: fields) =
      (violationsAtField entityPlace entity (field.name ∈ seen) place field).map Violation.issue ++
        fieldIssues s!"/app/entities/{entityPlace}" entity (field.name :: seen) (place + 1)
          fields := by
  rw [fieldIssues, violationsAtField, List.map_append, ← enumIssues_eq, map_issue_ite]
  rfl

theorem fieldIssues_eq (place : Nat) (entity : Entity) :
    fieldIssues s!"/app/entities/{place}" entity.name [] 0 entity.fields =
      (entity.fields.zipIdx.flatMap fun (field, fieldPlace) ↦
        violationsAtField place entity.name
          (IsRepeated EntityField.name entity.fields fieldPlace field) fieldPlace field).map
        Violation.issue := by
  have hloop := loop_eq_flatMap EntityField.name (fun isRepeated fieldPlace field ↦
    (violationsAtField place entity.name isRepeated fieldPlace field).map Violation.issue)
    (fieldIssues s!"/app/entities/{place}" entity.name) (fun _ _ ↦ rfl)
    (fun _ _ _ _ ↦ ⟨_, fun _ ↦ List.mem_cons, fieldIssues_cons _ _ _ _ _ _⟩) [] entity.fields
  simpa only [List.not_mem_nil, false_or, List.map_flatMap] using hloop

theorem entityIssues_cons (seen : List String) (place : Nat) (entity : Entity)
    (entities : List Entity) :
    entityIssues seen place (entity :: entities) =
      (violationsAtEntity (entity.name ∈ seen) place entity).map Violation.issue ++
        entityIssues (entity.name :: seen) (place + 1) entities := by
  rw [entityIssues, violationsAtEntity, List.map_append, ← fieldIssues_eq, map_issue_ite]
  rfl

theorem pagePathIssues_eq (place : Nat) (page : PageDescriptor) :
    pagePathIssues place page = (violationsAtPage place page).map Violation.issue := by
  unfold pagePathIssues violationsAtPage
  cases hproblem : Route.pathProblem? page.pagePath with
  | none => rw [if_pos (Route.pathProblem?_eq_none_iff.1 hproblem), List.map_nil]
  | some problem =>
    have hpath : ¬Route.IsPagePath page.pagePath := by
      rw [← Route.pathProblem?_eq_none_iff, hproblem]
      nofun
    rw [if_neg hpath, List.map_singleton, issue_eq_about, Violation.message_pagePath, hproblem]
    rfl

theorem ruleIssues_eq (spec : AppSpec) : spec.ruleIssues = spec.violations.map Violation.issue := by
  have hloop := loop_eq_flatMap Entity.name (fun isRepeated place entity ↦
    (violationsAtEntity isRepeated place entity).map Violation.issue) entityIssues
    (fun _ _ ↦ rfl) (fun _ _ _ _ ↦ ⟨_, fun _ ↦ List.mem_cons, entityIssues_cons _ _ _ _⟩) []
    spec.app.entities
  simp only [List.not_mem_nil, false_or] at hloop
  rw [ruleIssues, violations, List.map_append, List.map_flatMap, List.map_flatMap, hloop]
  simp only [pagePathIssues_eq]

example :
    let title : EntityField := { name := "title", type := .text }
    let shelf : EntityField := { name := "title", type := .text, enumValues := some ["new"] }
    (entityIssues [] 0 [⟨"Book", [title, shelf]⟩, ⟨"Book", [title]⟩]).map Issue.path =
      ["/app/entities/0/fields/1/name", "/app/entities/0/fields/1/enumValues",
        "/app/entities/1/name"] := by
  decide +kernel

/-! ## The list is exact -/

variable {spec : AppSpec} {violation : Violation} {place : Nat}

theorem mem_violationsAtField_iff {entityPlace : Nat} {entity : String} {isRepeated : Bool}
    {field : EntityField} :
    violation ∈ violationsAtField entityPlace entity isRepeated place field ↔
      isRepeated ∧ violation = .fieldName entityPlace place entity field.name ∨
        ¬(field.type = .enum ↔ field.values ≠ []) ∧
          violation = .enumValues entityPlace place field.type := by
  rw [violationsAtField, List.mem_append, List.mem_ite_nil_right, List.mem_ite_nil_left,
    List.mem_singleton, List.mem_singleton]

theorem mem_violationsAtEntity_iff {isRepeated : Bool} {entity : Entity} :
    violation ∈ violationsAtEntity isRepeated place entity ↔
      isRepeated ∧ violation = .entityName place entity.name ∨
        ∃ field fieldPlace, entity.fields[fieldPlace]? = some field ∧
          violation ∈ violationsAtField place entity.name
            (IsRepeated EntityField.name entity.fields fieldPlace field) fieldPlace field := by
  rw [violationsAtEntity, List.mem_append, List.mem_ite_nil_right, List.mem_singleton,
    List.mem_flatMap, Prod.exists]
  simp only [List.mk_mem_zipIdx_iff_getElem?]

theorem mem_violationsAtPage_iff {page : PageDescriptor} :
    violation ∈ violationsAtPage place page ↔
      ¬Route.IsPagePath page.pagePath ∧ violation = .pagePath place page.pagePath := by
  rw [violationsAtPage, List.mem_ite_nil_left, List.mem_singleton]

theorem mem_violations_iff : violation ∈ spec.violations ↔ spec.Violates violation := by
  rw [violations, List.mem_append, List.mem_flatMap, List.mem_flatMap, Prod.exists, Prod.exists]
  simp only [List.mk_mem_zipIdx_iff_getElem?]
  constructor
  · rintro (⟨page, place, hpage, hmem⟩ | ⟨entity, place, hentity, hmem⟩)
    · obtain ⟨hpath, rfl⟩ := mem_violationsAtPage_iff.1 hmem
      exact .pagePath hpage hpath
    · rcases mem_violationsAtEntity_iff.1 hmem with ⟨hname, rfl⟩ | ⟨field, _, hfield, hmem⟩
      · exact .entityName hentity (of_decide_eq_true hname)
      · rcases mem_violationsAtField_iff.1 hmem with ⟨hname, rfl⟩ | ⟨henum, rfl⟩
        · exact .fieldName hentity hfield (of_decide_eq_true hname)
        · exact .enumValues hentity hfield henum
  · intro h
    cases h with
    | pagePath hpage hpath =>
      exact .inl ⟨_, _, hpage, mem_violationsAtPage_iff.2 ⟨hpath, rfl⟩⟩
    | entityName hentity hname =>
      refine .inr ⟨_, _, hentity, mem_violationsAtEntity_iff.2 (.inl ⟨?_, rfl⟩)⟩
      exact decide_eq_true hname
    | fieldName hentity hfield hname =>
      refine .inr ⟨_, _, hentity, mem_violationsAtEntity_iff.2 (.inr ⟨_, _, hfield, ?_⟩)⟩
      exact mem_violationsAtField_iff.2 (.inl ⟨decide_eq_true hname, rfl⟩)
    | enumValues hentity hfield henum =>
      refine .inr ⟨_, _, hentity, mem_violationsAtEntity_iff.2 (.inr ⟨_, _, hfield, ?_⟩)⟩
      exact mem_violationsAtField_iff.2 (.inr ⟨henum, rfl⟩)

/-! ## Order of places -/

theorem pairwise_flatMap_zipIdx {α β : Type} {r : β → β → Prop} {as : List α}
    {report : α × Nat → List β} (hown : ∀ placed, (report placed).Pairwise r)
    (hacross : ∀ placed other, placed.2 < other.2 →
      ∀ b ∈ report placed, ∀ c ∈ report other, r b c) :
    (as.zipIdx.flatMap report).Pairwise r := by
  have hplaces : as.zipIdx.Pairwise (·.2 < ·.2) := by
    rw [← List.pairwise_map, List.zipIdx_map_snd]
    exact List.pairwise_lt_range'
  apply List.pairwise_flatMap.2
  exact ⟨fun placed _ ↦ hown placed, hplaces.imp fun {placed other} h ↦ hacross placed other h⟩

theorem rank_of_mem_field {entityPlace : Nat} {entity : String} {isRepeated : Bool}
    {field : EntityField}
    (h : violation ∈ violationsAtField entityPlace entity isRepeated place field) :
    ∃ last, violation.rank = [1, entityPlace, place + 1, last] := by
  rcases mem_violationsAtField_iff.1 h with ⟨-, rfl⟩ | ⟨-, rfl⟩
  · exact ⟨0, rfl⟩
  · exact ⟨1, rfl⟩

theorem rank_of_mem_entity {isRepeated : Bool} {entity : Entity}
    (h : violation ∈ violationsAtEntity isRepeated place entity) :
    ∃ rest, violation.rank = 1 :: place :: rest := by
  rcases mem_violationsAtEntity_iff.1 h with ⟨-, rfl⟩ | ⟨field, fieldPlace, -, hfield⟩
  · exact ⟨[0], rfl⟩
  · obtain ⟨last, hrank⟩ := rank_of_mem_field hfield
    exact ⟨[fieldPlace + 1, last], hrank⟩

theorem rank_of_mem_page {page : PageDescriptor} (h : violation ∈ violationsAtPage place page) :
    violation.rank = [0, place] := by
  obtain ⟨-, rfl⟩ := mem_violationsAtPage_iff.1 h
  rfl

theorem pairwise_violationsAtField (entityPlace : Nat) (entity : String) (isRepeated : Bool)
    (place : Nat) (field : EntityField) :
    (violationsAtField entityPlace entity isRepeated place field).Pairwise (·.rank < ·.rank) := by
  have hranks : [1, entityPlace, place + 1, 0] < [1, entityPlace, place + 1, 1] :=
    .cons (.cons (.cons (.rel Nat.zero_lt_one)))
  unfold violationsAtField
  split_ifs <;> simp [Violation.rank, hranks]

theorem pairwise_violationsAtEntity (isRepeated : Bool) (place : Nat) (entity : Entity) :
    (violationsAtEntity isRepeated place entity).Pairwise (·.rank < ·.rank) := by
  rw [violationsAtEntity, List.pairwise_append]
  refine ⟨by split_ifs <;> simp, ?_, ?_⟩
  · apply pairwise_flatMap_zipIdx
    · intro placed
      exact pairwise_violationsAtField _ _ _ _ _
    · intro placed other hplaces first hfirst second hsecond
      obtain ⟨last, hrank⟩ := rank_of_mem_field hfirst
      obtain ⟨last', hrank'⟩ := rank_of_mem_field hsecond
      rw [hrank, hrank']
      exact .cons (.cons (.rel (Nat.succ_lt_succ hplaces)))
  · intro first hfirst second hsecond
    rw [List.mem_ite_nil_right, List.mem_singleton] at hfirst
    obtain ⟨placed, -, hsecond⟩ := List.mem_flatMap.1 hsecond
    obtain ⟨last, hrank⟩ := rank_of_mem_field hsecond
    rw [hfirst.2, hrank]
    exact .cons (.cons (.rel (Nat.succ_pos _)))

theorem pairwise_violations (spec : AppSpec) : spec.violations.Pairwise (·.rank < ·.rank) := by
  rw [violations, List.pairwise_append]
  refine ⟨?_, ?_, ?_⟩
  · apply pairwise_flatMap_zipIdx
    · intro placed
      dsimp only [violationsAtPage]
      split_ifs <;> simp
    · intro placed other hplaces first hfirst second hsecond
      rw [rank_of_mem_page hfirst, rank_of_mem_page hsecond]
      exact .cons (.rel hplaces)
  · apply pairwise_flatMap_zipIdx
    · intro placed
      exact pairwise_violationsAtEntity _ _ _
    · intro placed other hplaces first hfirst second hsecond
      obtain ⟨rest, hrank⟩ := rank_of_mem_entity hfirst
      obtain ⟨rest', hrank'⟩ := rank_of_mem_entity hsecond
      rw [hrank, hrank']
      exact .cons (.rel hplaces)
  · intro first hfirst second hsecond
    obtain ⟨page, -, hfirst⟩ := List.mem_flatMap.1 hfirst
    obtain ⟨entity, -, hsecond⟩ := List.mem_flatMap.1 hsecond
    obtain ⟨rest, hrank⟩ := rank_of_mem_entity hsecond
    rw [rank_of_mem_page hfirst, hrank]
    exact .rel Nat.zero_lt_one

/-! ## The second stage -/

theorem keepsRules_iff : spec.KeepsRules ↔ spec.violations = [] := by
  constructor
  · intro h
    rw [List.eq_nil_iff_forall_not_mem]
    intro violation hmem
    cases mem_violations_iff.1 hmem with
    | pagePath hpage hpath => exact hpath (h.paths _ (List.mem_of_getElem? hpage))
    | entityName hentity hname => exact not_isRepeated_of_nodup h.names hentity hname
    | fieldName hentity hfield hname =>
      have hregular := h.entities _ (List.mem_of_getElem? hentity)
      exact not_isRepeated_of_nodup hregular.names hfield hname
    | enumValues hentity hfield henum =>
      have hregular := h.entities _ (List.mem_of_getElem? hentity)
      exact henum (hregular.enums _ (List.mem_of_getElem? hfield))
  · intro h
    have hrules : spec.checkRules = .ok () := by
      rw [checkRules_eq_ok_iff, ruleIssues_eq, h, List.map_nil]
    constructor
    · intro page hpage
      exact Route.pathProblem?_eq_none_iff.1 (pathProblem?_eq_none hrules hpage)
    · exact nodup_entityNames hrules
    · exact regular_of_mem hrules

/-- The second stage lets just those specifications pass that keep the rules. Of any other one it
tells all violations in the order of their places, each of them once and nothing else. -/
theorem checkRules_reports (spec : AppSpec) :
    (spec.checkRules = .ok () ↔ spec.KeepsRules) ∧
    ∃ violations : List Violation,
      spec.checkRules =
        (if violations = [] then .ok () else .error (.refinement (violations.map Violation.issue))) ∧
      violations.Pairwise (·.rank < ·.rank) ∧
      ∀ violation, violation ∈ violations ↔ spec.Violates violation := by
  have hcheck : spec.checkRules = if spec.violations = [] then .ok ()
      else .error (.refinement (spec.violations.map Violation.issue)) := by
    rw [checkRules, ruleIssues_eq]
    cases spec.violations <;> rfl
  refine ⟨?_, spec.violations, hcheck, pairwise_violations spec, fun _ ↦ mem_violations_iff⟩
  rw [keepsRules_iff, checkRules_eq_ok_iff, ruleIssues_eq, List.map_eq_nil_iff]

end AppSpec

end WebScaffold
