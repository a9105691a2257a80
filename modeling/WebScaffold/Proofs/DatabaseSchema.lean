import Mathlib.Data.List.Nodup
import Mathlib.Data.List.Pairwise
import Mathlib.Tactic.Common
import WebScaffold.Artifact.DatabaseSchema
import WebScaffold.Proofs.Blank
import WebScaffold.Proofs.Case
import WebScaffold.Proofs.Layout

/-!
# Names in the database schema

The schema is a list of blocks: an enum for each enum field that has a column, and then a model for
each entity. Names come into it as identifiers, and different names may come to the same identifier.
Within an entity a later field gives way to an earlier one with its column. Between entities,
between the enums and the models, and among the values of an enum nothing sees to it, so names that
are different in the specification can meet in the schema.
-/

namespace WebScaffold

namespace Artifact

/-! ## Identifiers -/

/-- A letter, and then letters, digits and underscores. -/
def IsIdentifier (cs : List Char) : Prop :=
  cs.head?.any Char.isAlpha ∧ ∀ c ∈ cs, isIdentifierPart c

instance (cs : List Char) : Decidable (IsIdentifier cs) :=
  decidable_of_iff (cs.head?.any Char.isAlpha ∧ cs.all isIdentifierPart)
    (and_congr_right fun _ ↦ List.all_eq_true)

theorem isIdentifierPart_iff {c : Char} : isIdentifierPart c ↔
    (65 ≤ c.toNat ∧ c.toNat ≤ 90) ∨ (97 ≤ c.toNat ∧ c.toNat ≤ 122) ∨
      (48 ≤ c.toNat ∧ c.toNat ≤ 57) ∨ c.toNat = 95 := by
  simp only [isIdentifierPart, Char.isAlphanum, Bool.or_eq_true, beq_iff_eq, Text.isAlpha_iff,
    Text.isDigit_iff, Text.eq_underscore_iff, or_assoc]

theorem isBlank_of_isIdentifierPart {c : Char} (h : isIdentifierPart c) :
    Text.isBlank c = false := by
  have hrange := isIdentifierPart_iff.1 h
  simp only [Text.isBlank, Bool.or_eq_false_iff, Bool.and_eq_false_iff, decide_eq_false_iff_not,
    beq_eq_false_iff_ne]
  omega

theorem isIdentifier_identifierChars (name : List Char) : IsIdentifier (identifierChars name) := by
  have hcleaned : ∀ c ∈ (Text.trimChars name).map fun c ↦ if isIdentifierPart c then c else '_',
      isIdentifierPart c := by
    intro c hc
    obtain ⟨d, -, rfl⟩ := List.mem_map.1 hc
    split_ifs with hd
    · exact hd
    · rfl
  unfold identifierChars
  dsimp only
  split_ifs with hhead
  · exact ⟨hhead, hcleaned⟩
  · refine ⟨rfl, fun c hc ↦ ?_⟩
    rcases List.mem_cons.1 hc with rfl | hc
    · rfl
    · exact hcleaned c hc

theorem identifierChars_eq_self {cs : List Char} (h : IsIdentifier cs) :
    identifierChars cs = cs := by
  have htrim : Text.trimChars cs = cs :=
    Text.trimChars_eq_self fun c hc ↦ isBlank_of_isIdentifierPart (h.2 c hc)
  have hmap : (cs.map fun c ↦ if isIdentifierPart c then c else '_') = cs := by
    rw [List.map_congr_left fun c hc ↦ if_pos (h.2 c hc), List.map_id']
  simp only [identifierChars, htrim, hmap, h.1, if_true]

theorem identifierOf_eq_self {name : String} (h : IsIdentifier name.toList) :
    identifierOf name = name := by
  rw [identifierOf, identifierChars_eq_self h, String.ofList_toList]

theorem IsIdentifier.append {cs rest : List Char} (h : IsIdentifier cs)
    (hrest : ∀ c ∈ rest, isIdentifierPart c) : IsIdentifier (cs ++ rest) := by
  constructor
  · cases cs with
    | nil => exact absurd h.1 (by simp)
    | cons c cs => exact h.1
  · intro c hc
    rcases List.mem_append.1 hc with hc | hc
    · exact h.2 c hc
    · exact hrest c hc

/-- Identifiers that are joined by an underscore are an identifier. -/
theorem identifierOf_join (front back : String) :
    identifierOf (identifierOf front ++ "_" ++ identifierOf back) =
      identifierOf front ++ "_" ++ identifierOf back := by
  have hback : ∀ c ∈ '_' :: identifierChars back.toList, isIdentifierPart c := by
    intro c hc
    rcases List.mem_cons.1 hc with rfl | hc
    · rfl
    · exact (isIdentifier_identifierChars back.toList).2 c hc
  have hchars : (identifierOf front ++ "_" ++ identifierOf back).toList =
      identifierChars front.toList ++ '_' :: identifierChars back.toList := by
    simp [identifierOf]
  apply identifierOf_eq_self
  rw [hchars]
  exact (isIdentifier_identifierChars front.toList).append hback

/-! ## Blocks -/

/-- A block of the schema. The values of an enum are identifiers, the columns of a model lines. -/
inductive SchemaBlock where
  | enum (name : String) (values : List String)
  | model (name : String) (columns : List String)
deriving DecidableEq, Repr

namespace SchemaBlock

def name : SchemaBlock → String
  | enum name _ => name
  | model name _ => name

/-- The names of the values of an enum; a model has none. -/
def values : SchemaBlock → List String
  | enum _ values => values
  | model _ _ => []

def text : SchemaBlock → String
  | enum name values =>
    "enum " ++ name ++ r" {" ++ "\n" ++ "\n".intercalate (values.map ("  " ++ ·)) ++ "\n" ++ r"}"
  | model name columns => modelBlock name columns

end SchemaBlock

def modelName (entity : Entity) : String :=
  identifierOf entity.name

def columnName (field : EntityField) : String :=
  identifierOf field.name

/-- The fields that get a column where the columns `taken` are there already. -/
def keptFields (taken : List String) : List EntityField → List EntityField
  | [] => []
  | field :: fields =>
    if columnName field ∈ taken then keptFields taken fields
    else field :: keptFields (columnName field :: taken) fields

/-- The enum fields of an entity that get a column. -/
def enumFields (entity : Entity) : List EntityField :=
  (keptFields ownColumns entity.fields).filter (·.type = .enum)

def enumName (entity : Entity) (field : EntityField) : String :=
  modelName entity ++ "_" ++ columnName field

def enumBlocks (entity : Entity) : List SchemaBlock :=
  (enumFields entity).map fun field ↦
    .enum (enumName entity field) (field.values.map identifierOf)

/-- The line of a column. -/
def columnLine (entity : Entity) (field : EntityField) : String :=
  "  " ++ columnName field ++ " " ++ columnType (enumName entity field) field.type ++
    if field.isOptional then "?" else ""

def entityModel (entity : Entity) : SchemaBlock :=
  .model (modelName entity) ((keptFields ownColumns entity.fields).map (columnLine entity))

@[simp] theorem name_entityModel (entity : Entity) : (entityModel entity).name = modelName entity :=
  rfl

def schemaBlocks (entities : List Entity) : List SchemaBlock :=
  entities.flatMap enumBlocks ++ entities.map entityModel

def schemaText (blocks : List SchemaBlock) : String :=
  "\n\n".intercalate (schemaHead :: blocks.map SchemaBlock.text) ++ "\n"

theorem modelParts_value (entity : Entity) (taken : List String) (fields : List EntityField) :
    (modelParts (modelName entity) taken fields).value =
      ⟨((keptFields taken fields).filter (·.type = .enum)).map fun field ↦
          enumBlock (enumName entity field) field.values,
        (keptFields taken fields).map (columnLine entity)⟩ := by
  induction fields generalizing taken with
  | nil => rfl
  | cons field fields ih =>
    have hname : identifierOf (modelName entity ++ "_" ++ identifierOf field.name) =
        enumName entity field := identifierOf_join entity.name field.name
    rw [modelParts, keptFields, columnName]
    dsimp only
    split_ifs with htaken
    · rw [Noted.bind_value, ih]
    · rw [Noted.bind_value, ih]
      by_cases htype : field.type = .enum
      · simp [fieldParts, hname, htype, columnLine, columnName]
      · simp [fieldParts, hname, htype, columnLine, columnName]

theorem text_enum (name : String) (values : List String) :
    (SchemaBlock.enum name (values.map identifierOf)).text = enumBlock name values := by
  rw [SchemaBlock.text, enumBlock, List.map_map]
  rfl

theorem entityBlocks_value (entity : Entity) :
    (entityBlocks entity).value =
      ((enumBlocks entity).map SchemaBlock.text, (entityModel entity).text) := by
  have hparts : (entityBlocks entity).value =
      ((modelParts (modelName entity) ownColumns entity.fields).value.enums,
        modelBlock (modelName entity)
          (modelParts (modelName entity) ownColumns entity.fields).value.columns) := rfl
  have henums : (enumBlocks entity).map SchemaBlock.text =
      (enumFields entity).map fun field ↦ enumBlock (enumName entity field) field.values := by
    rw [enumBlocks, List.map_map]
    exact List.map_congr_left fun field _ ↦ text_enum _ _
  rw [hparts, modelParts_value, henums]
  rfl

theorem mapM_value {α β : Type} (f : α → Noted β) (xs : List α) :
    (xs.mapM f).value = xs.map fun x ↦ (f x).value := by
  induction xs with
  | nil => rfl
  | cons x xs ih => simp [List.mapM_cons, ih]

/-- The schema is the text of its blocks. -/
theorem databaseSchema_value (entities : List Entity) :
    (databaseSchema entities).value = schemaText (schemaBlocks entities) := by
  have hblocks : (entities.mapM entityBlocks).value = entities.map fun entity ↦
      ((enumBlocks entity).map SchemaBlock.text, (entityModel entity).text) := by
    rw [mapM_value]
    exact List.map_congr_left fun entity _ ↦ entityBlocks_value entity
  have hall : (entities.mapM entityBlocks).value.flatMap (·.1) ++
      (entities.mapM entityBlocks).value.map (·.2) =
        (schemaBlocks entities).map SchemaBlock.text := by
    rw [hblocks, List.flatMap_map, List.map_map, schemaBlocks, List.map_append, List.map_flatMap,
      List.map_map]
    simp only [Function.comp_def]
  have htext : (databaseSchema entities).value =
      "\n\n".intercalate (schemaHead :: ((entities.mapM entityBlocks).value.flatMap (·.1) ++
        (entities.mapM entityBlocks).value.map (·.2))) ++ "\n" := rfl
  rw [htext, hall, schemaText]

/-! ## Names -/

theorem keptFields_columns (taken : List String) (fields : List EntityField) :
    ((keptFields taken fields).map columnName).Nodup ∧
      ∀ field ∈ keptFields taken fields, columnName field ∉ taken := by
  induction fields generalizing taken with
  | nil => simp [keptFields]
  | cons field fields ih =>
    rw [keptFields]
    split_ifs with htaken
    · exact ih taken
    · obtain ⟨hnodup, hnew⟩ := ih (columnName field :: taken)
      constructor
      · rw [List.map_cons, List.nodup_cons]
        refine ⟨fun hmem ↦ ?_, hnodup⟩
        obtain ⟨other, hother, hsame⟩ := List.mem_map.1 hmem
        exact hnew other hother (hsame ▸ List.mem_cons_self)
      · intro other hother
        rcases List.mem_cons.1 hother with rfl | hother
        · exact htaken
        · exact fun hmem ↦ hnew other hother (List.mem_cons_of_mem _ hmem)

theorem nodup_enumNames (entity : Entity) :
    ((enumFields entity).map (enumName entity)).Nodup := by
  have hcolumns : ((enumFields entity).map columnName).Nodup :=
    (keptFields_columns ownColumns entity.fields).1.sublist (List.filter_sublist.map _)
  have hjoin : Function.Injective fun column ↦ modelName entity ++ "_" ++ column := by
    intro a b hab
    simpa using hab
  rw [← List.nodup_map_iff hjoin, List.map_map] at hcolumns
  exact hcolumns

theorem name_schemaBlocks (entities : List Entity) :
    (schemaBlocks entities).map SchemaBlock.name =
      entities.flatMap (fun entity ↦ (enumFields entity).map (enumName entity)) ++
        entities.map modelName := by
  rw [schemaBlocks, List.map_append, List.map_flatMap, List.map_map]
  simp only [enumBlocks, List.map_map]
  rfl

/-- No two models and no two enums of different entities have the same name, and no enum has the
name of a model. -/
def NamesApart (entities : List Entity) : Prop :=
  (entities.Pairwise fun a b ↦ modelName a ≠ modelName b ∧
    ∀ field ∈ enumFields a, ∀ other ∈ enumFields b, enumName a field ≠ enumName b other) ∧
  ∀ a ∈ entities, ∀ field ∈ enumFields a, ∀ b ∈ entities, enumName a field ≠ modelName b

theorem nodup_names_iff (entities : List Entity) :
    ((schemaBlocks entities).map SchemaBlock.name).Nodup ↔ NamesApart entities := by
  have hmodels : (entities.map modelName).Nodup ↔
      entities.Pairwise fun a b ↦ modelName a ≠ modelName b := List.pairwise_map
  have hown : ∀ entity ∈ entities, ((enumFields entity).map (enumName entity)).Nodup :=
    fun entity _ ↦ nodup_enumNames entity
  have hdisjoint (a b : Entity) :
      Function.onFun List.Disjoint (fun entity ↦ (enumFields entity).map (enumName entity)) a b ↔
        ∀ field ∈ enumFields a, ∀ other ∈ enumFields b, enumName a field ≠ enumName b other := by
    simp only [Function.onFun, List.disjoint_iff_ne, List.forall_mem_map]
  have henums : (entities.flatMap fun entity ↦ (enumFields entity).map (enumName entity)).Nodup ↔
      entities.Pairwise fun a b ↦
        ∀ field ∈ enumFields a, ∀ other ∈ enumFields b, enumName a field ≠ enumName b other := by
    rw [List.nodup_flatMap, and_iff_right hown]
    exact List.Pairwise.iff fun {a b} ↦ hdisjoint a b
  rw [name_schemaBlocks, List.nodup_append, henums, hmodels, NamesApart, List.pairwise_and_iff]
  simp only [List.forall_mem_flatMap, List.forall_mem_map, and_assoc, and_left_comm]

theorem nodup_values_iff (entities : List Entity) :
    (∀ block ∈ schemaBlocks entities, block.values.Nodup) ↔
      ∀ entity ∈ entities, ∀ field ∈ enumFields entity,
        field.values.Pairwise fun a b ↦ identifierOf a ≠ identifierOf b := by
  have hmodels : ∀ entity ∈ entities, (entityModel entity).values.Nodup :=
    fun entity _ ↦ List.nodup_nil
  simp only [schemaBlocks, enumBlocks, List.forall_mem_append, List.forall_mem_flatMap,
    List.forall_mem_map, SchemaBlock.values, List.Nodup, List.pairwise_map]
  exact and_iff_left hmodels

/-- An identifier without an underscore. -/
def IsSimpleName (name : String) : Prop :=
  IsIdentifier name.toList ∧ '_' ∉ name.toList

instance (name : String) : Decidable (IsSimpleName name) :=
  inferInstanceAs (Decidable (_ ∧ _))

theorem modelName_of_isSimpleName {entity : Entity} (h : IsSimpleName entity.name) :
    modelName entity = entity.name :=
  identifierOf_eq_self h.1

theorem toList_enumName (entity : Entity) (field : EntityField) :
    (enumName entity field).toList =
      (modelName entity).toList ++ '_' :: (columnName field).toList := by
  simp [enumName]

/-- Simple names that are different are enough: an enum's name holds the model's up to the first
underscore. -/
theorem namesApart_of_isSimpleName {entities : List Entity}
    (hnames : (entities.map Entity.name).Nodup)
    (hsimple : ∀ entity ∈ entities, IsSimpleName entity.name) : NamesApart entities := by
  have hmodel : ∀ entity ∈ entities, modelName entity = entity.name :=
    fun entity hentity ↦ modelName_of_isSimpleName (hsimple entity hentity)
  have hfirst : ∀ entity ∈ entities, ∀ field,
      (enumName entity field).toList.takeWhile (· != '_') = entity.name.toList := by
    intro entity hentity field
    rw [toList_enumName, hmodel entity hentity, List.takeWhile_append_of_pos]
    · simp
    · intro c hc
      exact bne_iff_ne.2 (ne_of_mem_of_not_mem hc (hsimple entity hentity).2)
  refine ⟨?_, fun a ha field _ b hb hsame ↦ ?_⟩
  · refine (List.pairwise_map.1 hnames).imp_of_mem fun {a b} ha hb hab ↦ ?_
    refine ⟨by rwa [hmodel a ha, hmodel b hb], fun field _ other _ hsame ↦ hab ?_⟩
    rw [← String.toList_inj, ← hfirst a ha field, ← hfirst b hb other, hsame]
  · have hunderscore : '_' ∈ (modelName b).toList := by
      rw [← hsame, toList_enumName]
      simp
    rw [hmodel b hb] at hunderscore
    exact (hsimple b hb).2 hunderscore

end Artifact

namespace AppSpec

open Artifact

/-- Names are distinct if each of them is not among those that were seen up to it. -/
theorem nodup_map_cons_of_seen {α : Type} {name : α → String} {seen : List String} {a : α}
    {as : List α} (ha : name a ∉ seen)
    (has : (as.map name).Nodup ∧ ∀ b ∈ as, name b ∉ name a :: seen) :
    ((a :: as).map name).Nodup ∧ ∀ b ∈ a :: as, name b ∉ seen := by
  obtain ⟨hnodup, hnew⟩ := has
  constructor
  · rw [List.map_cons, List.nodup_cons]
    refine ⟨fun hmem ↦ ?_, hnodup⟩
    obtain ⟨other, hother, hsame⟩ := List.mem_map.1 hmem
    exact hnew other hother (hsame ▸ List.mem_cons_self)
  · refine List.forall_mem_cons.2 ⟨ha, fun other hother hmem ↦ ?_⟩
    exact hnew other hother (List.mem_cons_of_mem _ hmem)

theorem nodup_entityNames_of_entityIssues {seen : List String} {place : Nat}
    {entities : List Entity} (h : entityIssues seen place entities = []) :
    (entities.map Entity.name).Nodup ∧ ∀ entity ∈ entities, entity.name ∉ seen := by
  induction entities generalizing seen place with
  | nil => simp
  | cons entity entities ih =>
    rw [entityIssues, List.append_eq_nil_iff, List.append_eq_nil_iff] at h
    obtain ⟨⟨hfirst, -⟩, hrest⟩ := h
    have hseen : entity.name ∉ seen := by
      intro hmem
      simp [hmem] at hfirst
    exact nodup_map_cons_of_seen hseen (ih hrest)

theorem nodup_entityNames {spec : AppSpec} (hrules : spec.checkRules = .ok ()) :
    (spec.app.entities.map Entity.name).Nodup := by
  obtain ⟨-, hentities⟩ := List.append_eq_nil_iff.1 (checkRules_eq_ok_iff.1 hrules)
  exact (nodup_entityNames_of_entityIssues hentities).1

/-- The names of the schema are unique where the names of the specification stay apart as
identifiers, which the rules see to only for entities with simple names. -/
theorem databaseSchema_names {spec : AppSpec} (hrules : spec.checkRules = .ok ()) :
    (databaseSchema spec.app.entities).value = schemaText (schemaBlocks spec.app.entities) ∧
      (((schemaBlocks spec.app.entities).map SchemaBlock.name).Nodup ↔
        NamesApart spec.app.entities) ∧
      ((∀ entity ∈ spec.app.entities, IsSimpleName entity.name) →
        NamesApart spec.app.entities) ∧
      ((∀ block ∈ schemaBlocks spec.app.entities, block.values.Nodup) ↔
        ∀ entity ∈ spec.app.entities, ∀ field ∈ enumFields entity,
          field.values.Pairwise fun a b ↦ identifierOf a ≠ identifierOf b) :=
  ⟨databaseSchema_value _, nodup_names_iff _,
    namesApart_of_isSimpleName (nodup_entityNames hrules), nodup_values_iff _⟩

/-- A shop on a server host, with the given database, pages and entities. -/
def bookshop (database : Database) (pages : List PageDescriptor) (entities : List Entity) :
    AppSpec where
  blueprint := .webApp
  app := { name := "Bookshop", purpose := "Sell books", roles := ["seller"], entities := entities }
  features := { auth := .none, pages := pages, integrations := [] }
  runtime := { renderMode := .server, database := database }
  deploy := { target := .vercel }

theorem bookshop_databaseSchema_names :
    let state : EntityField :=
      { name := "state", type := .enum, enumValues := some ["new", "worn"] }
    let spec := bookshop .neon [.path "/"] [⟨"Book", [state]⟩, ⟨"Order", [state]⟩]
    spec.checkRules = .ok () ∧ ((schemaBlocks spec.app.entities).map SchemaBlock.name).Nodup ∧
      ∀ block ∈ schemaBlocks spec.app.entities, block.values.Nodup := by
  intro state spec
  have hrules : spec.checkRules = .ok () := by decide
  obtain ⟨-, hnames, hsimple, hvalues⟩ := databaseSchema_names hrules
  exact ⟨hrules, hnames.2 (hsimple (by decide)), hvalues.2 (by decide)⟩

/-- Names that differ only in what an identifier cannot hold pass both stages of validation. The
schema has two models of one name then, and an enum with a value twice. -/
theorem bookshop_databaseSchema_clash :
    let state : EntityField :=
      { name := "state", type := .enum, enumValues := some ["in transit", "in-transit"] }
    let spec := bookshop .neon [.path "/"] [⟨"Order Item", [state]⟩, ⟨"Order-Item", []⟩]
    validate spec.encode = .ok spec ∧
      ¬((schemaBlocks spec.app.entities).map SchemaBlock.name).Nodup ∧
      ∃ block ∈ schemaBlocks spec.app.entities, ¬block.values.Nodup := by
  intro state spec
  exact ⟨by decide, by decide, by decide⟩

end AppSpec

end WebScaffold
