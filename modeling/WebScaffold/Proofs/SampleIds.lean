import WebScaffold.Proofs.SampleRows

/-!
# Ids of the fixtures

A row is its number under `id`, overlaid by the values of the fields under their names. So the rows
of a collection are told apart by their numbers exactly when no field takes the name `id`, other
than an enum whose values are the numbers again.
-/

namespace WebScaffold

/-! ## Entities that keep the rules -/

/-- An entity whose fields are told by their names, with values to choose from just where a field is
an enum. -/
structure Entity.Regular (entity : Entity) : Prop where
  names : (entity.fields.map EntityField.name).Nodup
  enums : ∀ field ∈ entity.fields, field.type = .enum ↔ field.values ≠ []

namespace AppSpec

theorem enumIssues_eq_nil_iff {path : String} {field : EntityField} :
    enumIssues path field = [] ↔ (field.type = .enum ↔ field.values ≠ []) := by
  unfold enumIssues
  cases htype : field.type == .enum <;> cases hvalues : field.values.isEmpty <;>
    simp_all

theorem names_of_fieldIssues {path entity : String} {seen : List String} {place : Nat}
    {fields : List EntityField} (h : fieldIssues path entity seen place fields = []) :
    (fields.map EntityField.name).Nodup ∧ ∀ field ∈ fields, field.name ∉ seen := by
  induction fields generalizing seen place with
  | nil => simp
  | cons field fields ih =>
    rw [fieldIssues, List.append_eq_nil_iff, List.append_eq_nil_iff] at h
    obtain ⟨⟨hfirst, -⟩, hrest⟩ := h
    have hseen : field.name ∉ seen := by
      intro hmem
      simp [hmem] at hfirst
    exact nodup_map_cons_of_seen hseen (ih hrest)

theorem enums_of_fieldIssues {path entity : String} {seen : List String} {place : Nat}
    {fields : List EntityField} (h : fieldIssues path entity seen place fields = []) :
    ∀ field ∈ fields, field.type = .enum ↔ field.values ≠ [] := by
  induction fields generalizing seen place with
  | nil => simp
  | cons field fields ih =>
    rw [fieldIssues, List.append_eq_nil_iff, List.append_eq_nil_iff] at h
    obtain ⟨⟨-, henum⟩, hrest⟩ := h
    exact List.forall_mem_cons.2 ⟨enumIssues_eq_nil_iff.1 henum, ih hrest⟩

theorem regular_of_entityIssues {seen : List String} {place : Nat} {entities : List Entity}
    (h : entityIssues seen place entities = []) : ∀ entity ∈ entities, entity.Regular := by
  induction entities generalizing seen place with
  | nil => simp
  | cons entity entities ih =>
    rw [entityIssues, List.append_eq_nil_iff, List.append_eq_nil_iff] at h
    obtain ⟨⟨-, hfields⟩, hrest⟩ := h
    refine List.forall_mem_cons.2 ⟨?_, ih hrest⟩
    exact ⟨(names_of_fieldIssues hfields).1, enums_of_fieldIssues hfields⟩

theorem regular_of_mem {spec : AppSpec} (hrules : spec.checkRules = .ok ()) :
    ∀ entity ∈ spec.app.entities, entity.Regular := by
  obtain ⟨-, hentities⟩ := List.append_eq_nil_iff.1 (checkRules_eq_ok_iff.1 hrules)
  exact regular_of_entityIssues hentities

end AppSpec

namespace Artifact

variable {entities : List Entity} {entity owner : Entity} {field : EntityField}

/-! ## Collections and rows -/

/-- The entities that the fixtures are made for. -/
def sampleEntities (entities : List Entity) : List Entity :=
  if entities = [] then [sampleEntity] else entities

theorem sampleDocument_eq (entities : List Entity) :
    sampleDocument entities = .object (collections (sampleEntities entities)) := rfl

theorem regular_sampleEntity : sampleEntity.Regular :=
  ⟨by decide, by decide⟩

theorem regular_of_mem_sampleEntities (h : ∀ entity ∈ entities, entity.Regular) :
    ∀ entity ∈ sampleEntities entities, entity.Regular := by
  unfold sampleEntities
  split_ifs
  · exact List.forall_mem_singleton.2 regular_sampleEntity
  · exact h

theorem Keeps.mem {collection : String} (h : Keeps entities owner collection) :
    owner ∈ entities := by
  obtain ⟨front, back, rfl, -⟩ := h
  exact List.mem_append_right _ List.mem_cons_self

/-- Every collection has the rows of the entity that keeps it. -/
theorem exists_keeps_of_mem_collections {collection : String} {rows : Json}
    (h : (collection, rows) ∈ collections entities) :
    ∃ owner, Keeps entities owner collection ∧ rows = .array (entityRows owner) := by
  have hlookup : (collections entities).lookup collection = some rows :=
    Table.lookup_of_mem (Table.increasing_ofList _) h
  obtain ⟨entity, hentity, hentry⟩ := List.mem_map.1 (Table.mem_ofList h)
  obtain rfl : collectionName entity = collection := congrArg Prod.fst hentry
  obtain ⟨owner, howner⟩ := exists_keeps hentity
  refine ⟨owner, howner, ?_⟩
  rw [howner.lookup_collections] at hlookup
  exact (Option.some.inj hlookup).symm

/-- A field has its value in every row, also if it takes the place of the number. -/
theorem member?_sampleRow (hnames : (entity.fields.map EntityField.name).Nodup)
    (hfield : field ∈ entity.fields) (number : Nat) :
    (sampleRow entity number).member? field.name =
      some (sampleValue entity.name field number) := by
  obtain ⟨front, back, hsplit⟩ := List.append_of_mem hfield
  rw [hsplit, List.map_append, List.map_cons, List.nodup_append] at hnames
  have hback : ∀ other ∈ back, other.name ≠ field.name := by
    intro other hother hsame
    refine (List.nodup_cons.1 hnames.2.1).1 ?_
    rw [← hsame]
    exact List.mem_map_of_mem hother
  rw [sampleRow, hsplit, List.map_append, List.map_cons, ← List.cons_append, Json.ofMembers,
    Json.member?_object]
  apply Table.lookup_ofList_append_cons
  rw [List.forall_mem_map]
  exact hback

/-- Where no field takes the name `id`, it is left to the number. -/
theorem member?_sampleRow_id (h : ∀ field ∈ entity.fields, field.name ≠ "id") (number : Nat) :
    (sampleRow entity number).member? "id" = some (.string (toString number)) := by
  rw [sampleRow, Json.ofMembers, Json.member?_object]
  refine @Table.lookup_ofList_append_cons _ [] _ _ _ ?_
  rw [List.forall_mem_map]
  exact h

/-! ## Numbers of rows -/

/-- The rows have their numbers as ids, in order. -/
def IsNumbered (rows : List Json) : Prop :=
  rows.map (Json.member? "id") =
    (List.range rowCount).map fun place ↦ some (.string (toString (place + 1)))

theorem IsNumbered.nodup {rows : List Json} (h : IsNumbered rows) :
    (rows.map (Json.member? "id")).Nodup := by
  rw [h]
  decide

theorem isNumbered_entityRows_iff : IsNumbered (entityRows entity) ↔
    ∀ place < rowCount, (sampleRow entity (place + 1)).member? "id" =
      some (.string (toString (place + 1))) := by
  rw [IsNumbered, entityRows, List.map_map, List.map_inj_left]
  simp only [List.mem_range, Function.comp_apply]

/-- An enum whose values are the numbers of the rows, each at the place where its row looks. -/
def SpellsNumbers (field : EntityField) : Prop :=
  field.type = .enum ∧ ∀ place < rowCount,
    field.values[(place + 1) % field.values.length]? = some (toString (place + 1))

instance (field : EntityField) : Decidable (SpellsNumbers field) :=
  inferInstanceAs (Decidable (_ ∧ _))

theorem cyclic_eq_string_iff {texts : List String} {number : Nat} {text : String}
    (htext : text ≠ "") :
    cyclic texts number = .string text ↔ texts[number % texts.length]? = some text := by
  rw [cyclic, Json.string.injEq]
  cases texts[number % texts.length]? with
  | none => simpa using htext.symm
  | some other => simp

theorem exists_withNumber (text : String) (number : Nat) :
    ∃ numbered : String, withNumber text number = .string numbered ∧ ' ' ∈ numbered.toList := by
  refine ⟨text ++ " " ++ toString number, rfl, ?_⟩
  simp

/-- Only an enum can have the numbers of the rows for its values. -/
theorem forall_typedValue_iff (henum : field.type = .enum → field.values ≠ []) :
    (∀ place < rowCount, typedValue field (place + 1) = .string (toString (place + 1))) ↔
      SpellsNumbers field := by
  have hnumbers : ∀ place < rowCount, toString (place + 1) ≠ "" := by decide
  have htexts : withNumber field.name 1 ≠ .string (toString 1) := by
    obtain ⟨numbered, hnumbered, hblank⟩ := exists_withNumber field.name 1
    rw [hnumbered, Ne, Json.string.injEq]
    rintro rfl
    exact absurd hblank (by decide)
  constructor
  · intro h
    have hfirst := h 0 (by decide)
    unfold typedValue at h hfirst
    cases htype : field.type <;> simp only [htype] at h hfirst
    case enum =>
      rw [if_neg (henum htype)] at h
      refine ⟨htype, fun place hplace ↦ ?_⟩
      exact (cyclic_eq_string_iff (hnumbers place hplace)).1 (h place hplace)
    case string | text => exact absurd hfirst htexts
    all_goals exact absurd hfirst (by decide)
  · rintro ⟨htype, hvalues⟩ place hplace
    unfold typedValue
    simp only [htype, if_neg (henum htype)]
    exact (cyclic_eq_string_iff (hnumbers place hplace)).2 (hvalues place hplace)

/-- The rows of an entity have their numbers as ids unless a field takes the place. -/
theorem isNumbered_iff_of_regular (h : entity.Regular) : IsNumbered (entityRows entity) ↔
    ∀ field ∈ entity.fields, field.name = "id" → SpellsNumbers field := by
  rw [isNumbered_entityRows_iff]
  by_cases hid : ∃ field ∈ entity.fields, field.name = "id"
  · obtain ⟨field, hfield, hname⟩ := hid
    have hvalue (number : Nat) : (sampleRow entity number).member? "id" =
        some (typedValue field number) := by
      rw [← hname, member?_sampleRow h.names hfield, sampleValue, hname]
      rfl
    have honly : (∀ other ∈ entity.fields, other.name = "id" → SpellsNumbers other) ↔
        SpellsNumbers field := by
      constructor
      · intro hall
        exact hall field hfield hname
      · intro hspells other hother hsame
        rwa [List.inj_on_of_nodup_map h.names hother hfield (hsame.trans hname.symm)]
    simp only [hvalue, Option.some.injEq]
    rw [honly]
    exact forall_typedValue_iff (h.enums field hfield).1
  · have hfree : ∀ field ∈ entity.fields, field.name ≠ "id" :=
      fun field hfield hname ↦ hid ⟨field, hfield, hname⟩
    refine iff_of_true (fun place _ ↦ ?_) (fun field hfield hname ↦ ?_)
    · exact member?_sampleRow_id hfree (place + 1)
    · exact absurd hname (hfree field hfield)

end Artifact

namespace AppSpec

open Artifact

/-- In each collection the ids of the rows are their numbers, and so pairwise distinct, exactly when
no field takes the name `id` but an enum whose values are the numbers. -/
theorem sampleDocument_ids {spec : AppSpec} (hrules : spec.checkRules = .ok ()) :
    ∃ table, sampleDocument spec.app.entities = .object table ∧
      ∀ collection rows, (collection, rows) ∈ table →
        ∃ owner, Keeps (sampleEntities spec.app.entities) owner collection ∧
          rows = .array (entityRows owner) ∧
          (IsNumbered (entityRows owner) ↔
            ∀ field ∈ owner.fields, field.name = "id" → SpellsNumbers field) ∧
          (IsNumbered (entityRows owner) →
            ((entityRows owner).map (Json.member? "id")).Nodup) := by
  refine ⟨_, sampleDocument_eq _, fun collection rows hrows ↦ ?_⟩
  obtain ⟨owner, howner, hrows⟩ := exists_keeps_of_mem_collections hrows
  have hregular : owner.Regular :=
    regular_of_mem_sampleEntities (regular_of_mem hrules) owner howner.mem
  exact ⟨owner, howner, hrows, isNumbered_iff_of_regular hregular, IsNumbered.nodup⟩

/-- An entity with a field of its own, and one whose ids are an enum of the numbers. -/
theorem bookshop_sampleDocument_ids :
    let book : Entity := ⟨"Book", [{ name := "pages", type := .int }]⟩
    let shelf : Entity := ⟨"Shelf", [{
      name := "id", type := .enum,
      enumValues := some ["10", "1", "2", "3", "4", "5", "6", "7", "8", "9"] }]⟩
    let spec := bookshop .none [.path "/"] [book, shelf]
    spec.checkRules = .ok () ∧
      sampleDocument spec.app.entities =
        .ofMembers [("books", .array (entityRows book)), ("shelfs", .array (entityRows shelf))] ∧
      IsNumbered (entityRows book) ∧ IsNumbered (entityRows shelf) := by
  intro book shelf spec
  have hrules : spec.checkRules = .ok () := by decide
  have hdocument : sampleDocument spec.app.entities = .ofMembers
      [("books", .array (entityRows book)), ("shelfs", .array (entityRows shelf))] := by decide
  have hregular : ∀ entity ∈ [book, shelf],
      ∀ field ∈ entity.fields, field.name = "id" → SpellsNumbers field := by decide
  obtain ⟨table, htable, hcollections⟩ := sampleDocument_ids hrules
  obtain rfl := Json.object.inj (htable.symm.trans hdocument)
  have hnumbered : ∀ collection rows, (collection, Json.array rows) ∈
      [("books", Json.array (entityRows book)), ("shelfs", Json.array (entityRows shelf))] →
        IsNumbered rows := by
    intro collection rows hrows
    obtain ⟨owner, howner, hrows, hiff, -⟩ := hcollections collection _ hrows
    obtain rfl := Json.array.inj hrows
    exact hiff.2 (hregular owner howner.mem)
  exact ⟨hrules, hdocument, hnumbered "books" _ (by simp), hnumbered "shelfs" _ (by simp)⟩

/-- A field may be called `id` for both stages of validation. Its values take the place of the
numbers then: those of a flag are no texts, and the same in every other row. -/
theorem bookshop_sampleDocument_sameIds :
    let id : EntityField := { name := "id", type := .bool }
    let spec := bookshop .none [.path "/"] [⟨"Book", [id]⟩]
    validate spec.encode = .ok spec ∧ ∃ rows,
      sampleDocument spec.app.entities = .ofMembers [("books", .array rows)] ∧
        ¬IsNumbered rows ∧ ¬(rows.map (Json.member? "id")).Nodup := by
  intro id spec
  have hsame : ¬((entityRows ⟨"Book", [id]⟩).map (Json.member? "id")).Nodup := by decide
  have hdocument : sampleDocument spec.app.entities =
      .ofMembers [("books", .array (entityRows ⟨"Book", [id]⟩))] := by decide
  exact ⟨by decide, _, hdocument, fun h ↦ hsame h.nodup, hsame⟩

end AppSpec

end WebScaffold
