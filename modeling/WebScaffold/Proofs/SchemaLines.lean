import WebScaffold.Proofs.DatabaseSchema
import WebScaffold.Proofs.RenderedLines
import WebScaffold.Proofs.RepeatedNames

/-!
# Lines of the database schema

The schema is given here line by line. Names come into it as identifiers, in which no line can end
and no block can be closed, so it has the lines of its blocks and no others, whatever the names in
the specification are. A field has a line exactly when no generated column and no field in front of
it has its column; each of the other fields is told by a warning.
-/

namespace WebScaffold

namespace Text

/-- Texts without line breaks are the lines of the text that joins them. -/
theorem linesOf_intercalate {texts : List String} (hne : texts ≠ [])
    (hlines : ∀ text ∈ texts, '\n' ∉ text.toList) :
    linesOf ("\n".intercalate texts).toList = texts.map String.toList := by
  induction texts with
  | nil => exact absurd rfl hne
  | cons text rest ih =>
    obtain ⟨htext, hrest⟩ := List.forall_mem_cons.1 hlines
    cases rest with
    | nil => rw [String.intercalate_singleton, linesOf_of_notMem htext, List.map_singleton]
    | cons next rest =>
      have hsplit : ("\n".intercalate (text :: next :: rest)).toList =
          text.toList ++ '\n' :: ("\n".intercalate (next :: rest)).toList := by
        rw [String.intercalate_cons_cons]
        simp
      rw [hsplit, linesOf_append_newline, linesOf_of_notMem htext, ih (by simp) hrest]
      rfl

end Text

namespace Artifact

open Text (linesOf)

/-! ## Fields with a column -/

/-- Whether the column of the field at a place is there already, as a generated one or as that of a
field in front of it. -/
def IsTaken (fields : List EntityField) (place : Nat) (field : EntityField) : Prop :=
  columnName field ∈ ownColumns ∨ IsRepeated columnName fields place field

instance (fields : List EntityField) (place : Nat) (field : EntityField) :
    Decidable (IsTaken fields place field) :=
  inferInstanceAs (Decidable (_ ∨ _))

/-- The fields that get a column, in their order. -/
def columnFields (entity : Entity) : List EntityField :=
  (entity.fields.zipIdx.filter fun (field, place) ↦ !IsTaken entity.fields place field).map Prod.fst

/-- The fields that get none. -/
def skippedFields (entity : Entity) : List EntityField :=
  (entity.fields.zipIdx.filter fun (field, place) ↦ IsTaken entity.fields place field).map Prod.fst

/-- The warning about a field that gets no column. -/
def collision (entity : Entity) (field : EntityField) : Warning where
  message := "field collides with an existing column, skipped"
  details := [("model", modelName entity), ("field", field.name)]

theorem flatMap_ite_eq_map_filter {α β : Type} (p : α → Bool) (f : α → β) (as : List α) :
    as.flatMap (fun a ↦ if p a then [f a] else []) = (as.filter p).map f := by
  induction as with
  | nil => rfl
  | cons a as ih =>
    rw [List.flatMap_cons, ih]
    cases hp : p a <;> simp [hp]

theorem keptFields_eq_columnFields (entity : Entity) :
    keptFields ownColumns entity.fields = columnFields entity := by
  have hloop := loop_eq_flatMap_of_new columnName
    (fun isTaken field ↦ if !isTaken then [field] else []) keptFields (fun _ ↦ rfl)
    (fun taken field fields htaken ↦ if_pos htaken) (fun taken field fields hfree ↦ if_neg hfree)
    ownColumns entity.fields
  exact hloop.trans (flatMap_ite_eq_map_filter _ _ _)

example :
    let named (name : String) : EntityField := { name := name, type := .int }
    (columnFields ⟨"Book", [named "page count", named "id", named "page-count"]⟩).map
      EntityField.name = ["page count"] := by
  decide +kernel

theorem warnings_modelParts_cons (entity : Entity) (taken : List String) (field : EntityField)
    (fields : List EntityField) :
    (modelParts (modelName entity) taken (field :: fields)).warnings =
      if columnName field ∈ taken then
        collision entity field :: (modelParts (modelName entity) taken fields).warnings
      else (modelParts (modelName entity) (columnName field :: taken) fields).warnings := by
  rw [modelParts, columnName]
  dsimp only
  split_ifs with htaken
  · rfl
  · simp

theorem warnings_modelParts (entity : Entity) :
    (modelParts (modelName entity) ownColumns entity.fields).warnings =
      (skippedFields entity).map (collision entity) := by
  have hloop := loop_eq_flatMap_of_new columnName
    (fun isTaken field ↦ if isTaken then [collision entity field] else [])
    (fun taken fields ↦ (modelParts (modelName entity) taken fields).warnings) (fun _ ↦ rfl)
    (fun taken field fields htaken ↦
      (warnings_modelParts_cons entity taken field fields).trans (if_pos htaken))
    (fun taken field fields hfree ↦
      (warnings_modelParts_cons entity taken field fields).trans (if_neg hfree))
    ownColumns entity.fields
  rw [skippedFields, List.map_map]
  exact hloop.trans (flatMap_ite_eq_map_filter _ _ _)

theorem warnings_mapM {α β : Type} (f : α → Noted β) (as : List α) :
    (as.mapM f).warnings = as.flatMap fun a ↦ (f a).warnings := by
  induction as with
  | nil => rfl
  | cons a as ih => simp [List.mapM_cons, ih]

theorem warnings_databaseSchema (entities : List Entity) :
    (databaseSchema entities).warnings =
      entities.flatMap fun entity ↦ (skippedFields entity).map (collision entity) := by
  have hentity (entity : Entity) :
      (entityBlocks entity).warnings = (skippedFields entity).map (collision entity) := by
    rw [← warnings_modelParts]
    exact List.append_nil _
  calc (databaseSchema entities).warnings
      = (entities.mapM entityBlocks).warnings := List.append_nil _
    _ = entities.flatMap fun entity ↦ (entityBlocks entity).warnings := warnings_mapM _ _
    _ = entities.flatMap fun entity ↦ (skippedFields entity).map (collision entity) := by
        simp only [hentity]

/-! ## Lines of the blocks -/

/-- The lines of the values of an enum. Where there are none an empty line stands in their place. -/
def valueLines (values : List String) : List String :=
  if values = [] then [""] else values.map ("  " ++ ·)

def SchemaBlock.lines : SchemaBlock → List String
  | .enum name values => ["enum " ++ name ++ r" {"] ++ valueLines values ++ [r"}"]
  | .model name columns =>
    ["model " ++ name ++ r" {", "  id        String   @id @default(cuid())",
      "  createdAt DateTime @default(now())"] ++ columns ++ [r"}"]

def headLines : List String :=
  [r"generator client {", r#"  provider = "prisma-client-js""#, r"}", "", r"datasource db {",
    r#"  provider = "postgresql""#, r#"  url      = env("DATABASE_URL")"#, r"}"]

/-- The lines of a schema. An empty line stands in front of every block, and the last line is
ended. -/
def schemaLines (blocks : List SchemaBlock) : List String :=
  headLines ++ (blocks.flatMap fun block ↦ "" :: block.lines) ++ [""]

theorem intercalate_valueLines (values : List String) :
    "\n".intercalate (valueLines values) = "\n".intercalate (values.map ("  " ++ ·)) := by
  unfold valueLines
  split_ifs with hvalues
  · rw [hvalues]
    rfl
  · rfl

theorem SchemaBlock.lines_ne_nil (block : SchemaBlock) : block.lines ≠ [] := by
  cases block <;> simp [SchemaBlock.lines]

theorem SchemaBlock.text_eq_intercalate (block : SchemaBlock) :
    block.text = "\n".intercalate block.lines := by
  cases block with
  | model name columns => rfl
  | enum name values =>
    have hvalues : valueLines values ≠ [] := by
      unfold valueLines
      split_ifs with hnil <;> simp [hnil]
    rw [SchemaBlock.text, SchemaBlock.lines,
      String.intercalate_append_of_ne_nil (by simp) (by simp),
      String.intercalate_append_of_ne_nil (by simp) hvalues, String.intercalate_singleton,
      String.intercalate_singleton, intercalate_valueLines]

/-- Blocks with an empty line between them. -/
theorem intercalate_blocks (lines : List String) (hlines : lines ≠ []) (blocks : List SchemaBlock) :
    "\n\n".intercalate ("\n".intercalate lines :: blocks.map SchemaBlock.text) =
      "\n".intercalate (lines ++ blocks.flatMap fun block ↦ "" :: block.lines) := by
  induction blocks generalizing lines with
  | nil => simp
  | cons block blocks ih =>
    have hrest : block.lines ++ blocks.flatMap (fun block ↦ "" :: block.lines) ≠ [] := by
      simp [block.lines_ne_nil]
    calc "\n\n".intercalate ("\n".intercalate lines :: (block :: blocks).map SchemaBlock.text)
      _ = "\n".intercalate lines ++ "\n\n" ++
            "\n".intercalate (block.lines ++ blocks.flatMap fun block ↦ "" :: block.lines) := by
          rw [List.map_cons, String.intercalate_cons_cons, block.text_eq_intercalate,
            ih block.lines block.lines_ne_nil]
      _ = "\n".intercalate lines ++ "\n" ++ "\n".intercalate
            ([""] ++ (block.lines ++ blocks.flatMap fun block ↦ "" :: block.lines)) := by
          rw [String.intercalate_append_of_ne_nil (by simp) hrest, String.intercalate_singleton]
          apply String.toList_inj.1
          simp
      _ = "\n".intercalate (lines ++ (block :: blocks).flatMap fun block ↦ "" :: block.lines) := by
          rw [← String.intercalate_append_of_ne_nil hlines (by simp)]
          rfl

theorem schemaText_eq_intercalate (blocks : List SchemaBlock) :
    schemaText blocks = "\n".intercalate (schemaLines blocks) := by
  have hhead : schemaHead = "\n".intercalate headLines := rfl
  have hne : headLines ≠ [] := by simp [headLines]
  have hall : headLines ++ blocks.flatMap (fun block ↦ "" :: block.lines) ≠ [] := by simp [hne]
  rw [schemaText, hhead, intercalate_blocks headLines hne, schemaLines,
    String.intercalate_append_of_ne_nil hall (by simp), String.intercalate_singleton,
    String.append_empty]

/-! ## Names in the lines -/

theorem isIdentifier_identifierOf (name : String) : IsIdentifier (identifierOf name).toList := by
  rw [identifierOf, String.toList_ofList]
  exact isIdentifier_identifierChars name.toList

theorem isIdentifier_enumName (entity : Entity) (field : EntityField) :
    IsIdentifier (enumName entity field).toList := by
  have hjoin := isIdentifier_identifierOf (modelName entity ++ "_" ++ columnName field)
  rwa [modelName, columnName, identifierOf_join] at hjoin

theorem isIdentifier_columnType (entity : Entity) (field : EntityField) :
    IsIdentifier (columnType (enumName entity field) field.type).toList := by
  cases field.type with
  | enum => exact isIdentifier_enumName entity field
  | _ =>
    dsimp only [columnType]
    decide

theorem newline_notMem_of_isIdentifier {cs : List Char} (h : IsIdentifier cs) : '\n' ∉ cs := by
  intro hmem
  exact absurd (h.2 _ hmem) (by decide)

theorem newline_notMem_columnLine (entity : Entity) (field : EntityField) :
    '\n' ∉ (columnLine entity field).toList := by
  have hcolumn := newline_notMem_of_isIdentifier (isIdentifier_identifierOf field.name)
  have htype := newline_notMem_of_isIdentifier (isIdentifier_columnType entity field)
  rw [columnLine, columnName]
  cases field.isOptional <;> simp [hcolumn, htype]

theorem newline_notMem_enum {name : String} (hname : IsIdentifier name.toList)
    (values : List String) :
    ∀ line ∈ (SchemaBlock.enum name (values.map identifierOf)).lines, '\n' ∉ line.toList := by
  have hfirst := newline_notMem_of_isIdentifier hname
  have hvalue (value : String) := newline_notMem_of_isIdentifier (isIdentifier_identifierOf value)
  have hvalues : ∀ line ∈ valueLines (values.map identifierOf), '\n' ∉ line.toList := by
    unfold valueLines
    split_ifs
    · simp
    · simp [hvalue]
  simp only [SchemaBlock.lines, List.forall_mem_append, List.forall_mem_singleton]
  exact ⟨⟨by simp [hfirst], hvalues⟩, by decide⟩

theorem newline_notMem_model (entity : Entity) :
    ∀ line ∈ (entityModel entity).lines, '\n' ∉ line.toList := by
  have hfirst := newline_notMem_of_isIdentifier (isIdentifier_identifierOf entity.name)
  simp only [entityModel, SchemaBlock.lines, List.forall_mem_append, List.forall_mem_cons,
    List.forall_mem_map]
  refine ⟨⟨⟨?_, by decide, by decide⟩, ?_⟩, by decide⟩
  · rw [modelName]
    simp [hfirst]
  · intro field _
    exact newline_notMem_columnLine entity field

theorem newline_notMem_schemaLines (entities : List Entity) :
    ∀ line ∈ schemaLines (schemaBlocks entities), '\n' ∉ line.toList := by
  have hblock : ∀ block ∈ schemaBlocks entities, ∀ line ∈ "" :: block.lines,
      '\n' ∉ line.toList := by
    simp only [schemaBlocks, enumBlocks, List.forall_mem_append, List.forall_mem_flatMap,
      List.forall_mem_map, List.forall_mem_cons]
    constructor
    · intro entity _ field _
      exact ⟨by simp, newline_notMem_enum (isIdentifier_enumName entity field) field.values⟩
    · intro entity _
      exact ⟨by simp, newline_notMem_model entity⟩
  simp only [schemaLines, List.forall_mem_append, List.forall_mem_flatMap]
  exact ⟨⟨by decide, hblock⟩, by simp⟩

/-- A column's line ends with a mark just if the field may be left out. -/
theorem getLast?_columnLine (entity : Entity) (field : EntityField) :
    (columnLine entity field).toList.getLast? = some '?' ↔ field.isOptional := by
  have htype := isIdentifier_columnType entity field
  have hne : (columnType (enumName entity field) field.type).toList ≠ [] := by
    intro hnil
    rw [hnil] at htype
    exact absurd htype.1 (by simp)
  cases hmark : field.isOptional with
  | true =>
    have hline : (columnLine entity field).toList =
        ("  " ++ columnName field ++ " " ++ columnType (enumName entity field) field.type).toList ++
          ['?'] := by
      simp [columnLine, hmark]
    rw [hline, List.getLast?_concat]
    exact iff_of_true rfl rfl
  | false =>
    have hline : (columnLine entity field).toList =
        ("  " ++ columnName field ++ " ").toList ++
          (columnType (enumName entity field) field.type).toList := by
      simp [columnLine, hmark]
    have hlast : (columnLine entity field).toList.getLast? ≠ some '?' := by
      rw [hline, List.getLast?_append_of_ne_nil _ hne]
      intro hend
      exact absurd (htype.2 _ (List.mem_of_mem_getLast? hend)) (by decide)
    exact iff_of_false hlast Bool.false_ne_true

/-! ## The whole schema -/

/-- A schema of the entities, with the warnings that come with it. -/
structure IsSchemaOf (entities : List Entity) (schema : Noted String) : Prop where
  lines : linesOf schema.value.toList =
    (schemaLines (schemaBlocks entities)).map String.toList
  blocks : schemaBlocks entities =
    (entities.flatMap fun entity ↦ ((columnFields entity).filter (·.type = .enum)).map fun field ↦
      .enum (enumName entity field) (field.values.map identifierOf)) ++
    entities.map fun entity ↦
      .model (modelName entity) ((columnFields entity).map (columnLine entity))
  warnings : schema.warnings =
    entities.flatMap fun entity ↦ (skippedFields entity).map (collision entity)
  columns (entity : Entity) : (ownColumns ++ (columnFields entity).map columnName).Nodup
  marks (entity : Entity) (field : EntityField) :
    (columnLine entity field).toList.getLast? = some '?' ↔ field.isOptional
  enums : ∀ entity ∈ entities, ∀ field ∈ columnFields entity, field.type = .enum →
    columnType (enumName entity field) field.type = enumName entity field ∧
      .enum (enumName entity field) (field.values.map identifierOf) ∈ schemaBlocks entities
  names : ∀ block ∈ schemaBlocks entities, ∀ name ∈ block.name :: block.values,
    IsIdentifier name.toList
  columnNames (entity : Entity) (field : EntityField) : IsIdentifier (columnName field).toList ∧
    IsIdentifier (columnType (enumName entity field) field.type).toList

theorem schemaBlocks_eq (entities : List Entity) : schemaBlocks entities =
    (entities.flatMap fun entity ↦ ((columnFields entity).filter (·.type = .enum)).map fun field ↦
      .enum (enumName entity field) (field.values.map identifierOf)) ++
    entities.map fun entity ↦
      .model (modelName entity) ((columnFields entity).map (columnLine entity)) := by
  have hmodel (entity : Entity) : entityModel entity =
      .model (modelName entity) ((columnFields entity).map (columnLine entity)) := by
    rw [entityModel, keptFields_eq_columnFields]
  have henums (entity : Entity) : enumBlocks entity =
      ((columnFields entity).filter (·.type = .enum)).map fun field ↦
        .enum (enumName entity field) (field.values.map identifierOf) := by
    rw [enumBlocks, enumFields, keptFields_eq_columnFields]
  rw [schemaBlocks, funext henums, funext hmodel]

theorem nodup_columns (entity : Entity) :
    (ownColumns ++ (columnFields entity).map columnName).Nodup := by
  obtain ⟨hnodup, hnew⟩ := keptFields_columns ownColumns entity.fields
  rw [keptFields_eq_columnFields] at hnodup hnew
  rw [List.nodup_append]
  refine ⟨by decide, hnodup, fun own hown column hcolumn hsame ↦ ?_⟩
  obtain ⟨field, hfield, rfl⟩ := List.mem_map.1 hcolumn
  exact hnew field hfield (hsame ▸ hown)

theorem isIdentifier_of_mem_schemaBlocks {entities : List Entity} :
    ∀ block ∈ schemaBlocks entities, ∀ name ∈ block.name :: block.values,
      IsIdentifier name.toList := by
  simp only [schemaBlocks, enumBlocks, List.forall_mem_append, List.forall_mem_flatMap,
    List.forall_mem_map, List.forall_mem_cons, SchemaBlock.name, SchemaBlock.values]
  constructor
  · intro entity _ field _
    exact ⟨isIdentifier_enumName entity field, fun value _ ↦ isIdentifier_identifierOf value⟩
  · intro entity _
    exact ⟨isIdentifier_identifierOf entity.name, by simp [entityModel]⟩

/-- The schema of the entities has the lines that it should have and no others, with identifiers in
the places of names, and tells of each field that it leaves out. -/
theorem databaseSchema_isSchemaOf (entities : List Entity) :
    IsSchemaOf entities (databaseSchema entities) where
  lines := by
    rw [databaseSchema_value, schemaText_eq_intercalate]
    exact Text.linesOf_intercalate (by simp [schemaLines]) (newline_notMem_schemaLines entities)
  blocks := schemaBlocks_eq entities
  warnings := warnings_databaseSchema entities
  columns := nodup_columns
  marks := getLast?_columnLine
  enums := by
    intro entity hentity field hfield htype
    refine ⟨by rw [htype]; rfl, ?_⟩
    rw [schemaBlocks_eq, List.mem_append, List.mem_flatMap]
    refine .inl ⟨entity, hentity, List.mem_map_of_mem ?_⟩
    exact List.mem_filter.2 ⟨hfield, decide_eq_true htype⟩
  names := isIdentifier_of_mem_schemaBlocks
  columnNames entity field :=
    ⟨isIdentifier_identifierOf field.name, isIdentifier_columnType entity field⟩

end Artifact

end WebScaffold
