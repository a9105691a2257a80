import WebScaffold.Proofs.SampleIds
import WebScaffold.Proofs.Timestamps

/-!
# Types of the fixtures

The value of a field is one of its type in every row: a number, a flag, a timestamp, one of the values
of an enum, and so on. Three names come before the type: a field that is called title, author or
condition has the texts that its name stands for, whatever type is declared. Its values are of the
type all the same where that is a text, or an enum that lists the texts.
-/

namespace WebScaffold

namespace Artifact

open Text

variable {entity : Entity} {field : EntityField}

/-! ## Values by type -/

/-- What the values of a declared field are. -/
def HasType (field : EntityField) (value : Json) : Prop :=
  match field.type with
  | .int => ∃ number, value = .number (.integer number)
  | .float => ∃ number, value = .number number
  | .bool => ∃ flag, value = .bool flag
  | .enum => ∃ text ∈ field.values, value = .string text
  | .date | .datetime => ∃ text, IsTimestamp text ∧ value = .string text
  | .json => ∃ members, value = .object members
  | .string | .text => ∃ text, value = .string text

/-- The rows count days back in the year before. -/
theorem exists_dayBefore {place : Nat} (hplace : place < rowCount) :
    ∃ text, IsTimestamp text ∧ dayBefore (place + 1) = .string text := by
  have hyear : ∀ place < rowCount,
      let date := Calendar.dateOf ((rowEpoch - Instant.secondsPerDay * (place + 1 : Nat)) /
        Instant.secondsPerDay)
      0 ≤ date.year ∧ date.year ≤ 9999 := by
    decide +kernel
  exact ⟨_, Instant.isTimestamp_text (hyear place hplace), rfl⟩

theorem exists_andHalf {place : Nat} (hplace : place < rowCount) :
    ∃ number, andHalf (place + 1) = .number number := by
  have hhalf : ∀ place < rowCount, (Binary64.ofRatio false (2 * (place + 1) + 1) 2).isSome := by
    decide
  obtain ⟨half, h⟩ := Option.isSome_iff_exists.1 (hhalf place hplace)
  refine ⟨.real half, ?_⟩
  unfold andHalf
  simp only [h]

theorem exists_cyclic {texts : List String} (htexts : texts ≠ []) (number : Nat) :
    ∃ text ∈ texts, cyclic texts number = .string text := by
  have hplace : number % texts.length < texts.length :=
    Nat.mod_lt _ (List.length_pos_iff.2 htexts)
  refine ⟨texts[number % texts.length], List.getElem_mem hplace, ?_⟩
  rw [cyclic, List.getElem?_eq_getElem hplace, Option.getD_some]

/-- What goes by the type of a field is of the type. -/
theorem hasType_typedValue {place : Nat} (henum : field.type = .enum → field.values ≠ [])
    (hplace : place < rowCount) : HasType field (typedValue field (place + 1)) := by
  unfold HasType typedValue
  cases htype : field.type with
  | int => exact ⟨_, rfl⟩
  | float => exact exists_andHalf hplace
  | bool => exact ⟨_, rfl⟩
  | enum =>
    simp only [if_neg (henum htype)]
    exact exists_cyclic (henum htype) (place + 1)
  | date => exact exists_dayBefore hplace
  | datetime => exact exists_dayBefore hplace
  | json => exact ⟨_, rfl⟩
  | string => exact ⟨_, rfl⟩
  | text => exact ⟨_, rfl⟩

/-! ## Values by name -/

/-- The names that come before the type. -/
def IsSpoken (name : String) : Prop :=
  name = "title" ∨ name = "author" ∨ name = "condition"

instance (name : String) : Decidable (IsSpoken name) :=
  inferInstanceAs (Decidable (_ ∨ _))

/-- The text that such a name stands for in the row with a number. -/
def spokenText (entity name : String) (number : Nat) : String :=
  if name = "title" then s!"{entity} {number}"
  else if name = "author" then s!"Author {number}"
  else (conditionWords[number % conditionWords.length]?).getD ""

/-- The texts of all rows, in order. -/
def spokenTexts (entity name : String) : List String :=
  (List.range rowCount).map fun place ↦ spokenText entity name (place + 1)

theorem sampleValue_of_isSpoken (h : IsSpoken field.name) (entity : String) (number : Nat) :
    sampleValue entity field number = .string (spokenText entity field.name number) := by
  unfold sampleValue spokenText
  rcases h with htitle | hauthor | hcondition
  · rw [if_pos htitle, if_pos htitle]
    rfl
  · rw [hauthor]
    rfl
  · rw [hcondition]
    rfl

theorem sampleValue_of_not_isSpoken (h : ¬IsSpoken field.name) (entity : String) (number : Nat) :
    sampleValue entity field number = typedValue field number := by
  simp only [IsSpoken, not_or] at h
  rw [sampleValue, if_neg h.1, if_neg h.2.1, if_neg h.2.2]

/-- The texts of the first row give away that the names stand for no timestamps. -/
theorem not_isTimestamp_spokenText (entity name : String) :
    ¬IsTimestamp (spokenText entity name 1) := by
  intro h
  obtain ⟨hblank, hhyphen⟩ := h.blank_and_hyphen
  unfold spokenText at hblank hhyphen
  split_ifs at hblank hhyphen
  · have hmem : ' ' ∈ (entity ++ " " ++ toString 1).toList := by simp
    exact hblank hmem
  · exact absurd hblank (by decide)
  · exact absurd hhyphen (by decide)

/-- A text is of the type where the type is one of texts, or an enum with the text among its
values. -/
theorem hasType_string_iff {text : String} (htext : ¬IsTimestamp text) :
    HasType field (.string text) ↔ field.type = .string ∨ field.type = .text ∨
      field.type = .enum ∧ text ∈ field.values := by
  unfold HasType
  cases field.type <;> simp [htext]

/-- The type is one of texts, or an enum that lists the given ones. -/
def AllowsTexts (field : EntityField) (texts : List String) : Prop :=
  field.type = .string ∨ field.type = .text ∨
    field.type = .enum ∧ ∀ text ∈ texts, text ∈ field.values

instance (field : EntityField) (texts : List String) : Decidable (AllowsTexts field texts) :=
  inferInstanceAs (Decidable (_ ∨ _))

/-- Where one of them is no timestamp, texts are of the type just if the type allows them. -/
theorem forall_hasType_string_iff {texts : List String} {first : String} (hfirst : first ∈ texts)
    (htext : ¬IsTimestamp first) :
    (∀ text ∈ texts, HasType field (.string text)) ↔ AllowsTexts field texts := by
  unfold AllowsTexts
  constructor
  · intro hall
    rcases (hasType_string_iff htext).1 (hall first hfirst) with hstring | hlong | ⟨henum, -⟩
    · exact .inl hstring
    · exact .inr (.inl hlong)
    · refine .inr (.inr ⟨henum, fun text hmem ↦ ?_⟩)
      simpa [HasType, henum] using hall text hmem
  · intro htype text hmem
    unfold HasType
    rcases htype with htype | htype | ⟨htype, hvalues⟩ <;> simp only [htype]
    · exact ⟨text, rfl⟩
    · exact ⟨text, rfl⟩
    · exact ⟨text, hvalues text hmem, rfl⟩

theorem forall_hasType_iff (h : entity.Regular) (hfield : field ∈ entity.fields) :
    (∀ row ∈ entityRows entity, ∃ value, row.member? field.name = some value ∧
        HasType field value) ↔
      ∀ place < rowCount, HasType field (sampleValue entity.name field (place + 1)) := by
  simp only [entityRows, List.forall_mem_map, List.mem_range, member?_sampleRow h.names hfield,
    Option.some.injEq, exists_eq_left']

theorem map_member?_entityRows (h : entity.Regular) (hfield : field ∈ entity.fields)
    (hspoken : IsSpoken field.name) :
    (entityRows entity).map (Json.member? field.name) =
      (spokenTexts entity.name field.name).map fun text ↦ some (.string text) := by
  simp only [entityRows, spokenTexts, List.map_map, List.map_inj_left, Function.comp_apply,
    member?_sampleRow h.names hfield, sampleValue_of_isSpoken hspoken, implies_true]

/-- The values of a field are of its type in every row, unless its name stands for texts that the
type does not allow. -/
theorem forall_hasType_iff_of_regular (h : entity.Regular) (hfield : field ∈ entity.fields) :
    (∀ row ∈ entityRows entity, ∃ value, row.member? field.name = some value ∧
        HasType field value) ↔
      (IsSpoken field.name → AllowsTexts field (spokenTexts entity.name field.name)) := by
  rw [forall_hasType_iff h hfield]
  by_cases hspoken : IsSpoken field.name
  · have hfirst : spokenText entity.name field.name 1 ∈ spokenTexts entity.name field.name :=
      List.mem_map.2 ⟨0, by decide, rfl⟩
    rw [← forall_hasType_string_iff hfirst (not_isTimestamp_spokenText _ _)]
    simp only [sampleValue_of_isSpoken hspoken, spokenTexts, List.forall_mem_map, List.mem_range,
      hspoken, forall_const]
  · refine iff_of_true (fun place hplace ↦ ?_) (fun h ↦ absurd h hspoken)
    rw [sampleValue_of_not_isSpoken hspoken]
    exact hasType_typedValue (h.enums field hfield).1 hplace

end Artifact

namespace AppSpec

open Artifact

/-- In the rows of an entity that keeps its collection, the values of a field are of the declared
type unless the field has one of the three names. Then they are the texts of the name, in the order
of the rows, and of the type just if it allows them. -/
theorem sampleDocument_values {spec : AppSpec} (hrules : spec.checkRules = .ok ()) {entity : Entity}
    (hkeeps : Keeps spec.app.entities entity (collectionName entity)) :
    ∃ table, sampleDocument spec.app.entities = .object table ∧
      table.lookup (collectionName entity) = some (.array (entityRows entity)) ∧
      ∀ field ∈ entity.fields,
        ((∀ row ∈ entityRows entity, ∃ value, row.member? field.name = some value ∧
            HasType field value) ↔
          (IsSpoken field.name → AllowsTexts field (spokenTexts entity.name field.name))) ∧
        (IsSpoken field.name → (entityRows entity).map (Json.member? field.name) =
          (spokenTexts entity.name field.name).map fun text ↦ some (.string text)) := by
  have hregular : entity.Regular := regular_of_mem hrules entity hkeeps.mem
  refine ⟨_, sampleDocument_of_ne_nil (List.ne_nil_of_mem hkeeps.mem), hkeeps.lookup_collections,
    fun field hfield ↦ ⟨?_, ?_⟩⟩
  · exact forall_hasType_iff_of_regular hregular hfield
  · exact map_member?_entityRows hregular hfield

/-- Fields of several types, with two of the three names among theirs: a title that is a text, and
a condition that is an enum of the words for it. -/
theorem bookshop_sampleDocument_values :
    let fields : List EntityField := [
      { name := "pages", type := .int }, { name := "price", type := .float },
      { name := "sold", type := .bool }, { name := "printed", type := .date },
      { name := "notes", type := .json }, { name := "title", type := .text },
      { name := "genre", type := .enum, enumValues := some ["poem", "novel"] },
      { name := "condition", type := .enum, enumValues := some ["fair", "good", "new"] }]
    let spec := bookshop .none [.path "/"] [⟨"Book", fields⟩]
    spec.checkRules = .ok () ∧ ∀ field ∈ fields, ∀ row ∈ entityRows ⟨"Book", fields⟩,
      ∃ value, row.member? field.name = some value ∧ HasType field value := by
  intro fields spec
  have hrules : spec.checkRules = .ok () := by decide
  have hkeeps : Keeps spec.app.entities ⟨"Book", fields⟩ (collectionName ⟨"Book", fields⟩) :=
    ⟨[], [], rfl, rfl, by simp⟩
  have hallowed : ∀ field ∈ fields,
      IsSpoken field.name → AllowsTexts field (spokenTexts "Book" field.name) := by decide
  obtain ⟨table, -, -, hfields⟩ := sampleDocument_values hrules hkeeps
  exact ⟨hrules, fun field hfield ↦ (hfields field hfield).1.2 (hallowed field hfield)⟩

/-- A title may be declared a number for both stages of validation. It is a text in the rows all the
same. -/
theorem bookshop_title_text :
    let title : EntityField := { name := "title", type := .int }
    let spec := bookshop .none [.path "/"] [⟨"Book", [title]⟩]
    validate spec.encode = .ok spec ∧ ∃ rows,
      sampleDocument spec.app.entities = .ofMembers [("books", .array rows)] ∧
        ∀ row ∈ rows, ∃ value, row.member? "title" = some value ∧ ¬HasType title value := by
  intro title spec
  have hdocument : sampleDocument spec.app.entities =
      .ofMembers [("books", .array (entityRows ⟨"Book", [title]⟩))] := by decide
  have hvalue (number : Nat) : (sampleRow ⟨"Book", [title]⟩ number).member? "title" =
      some (.string (spokenText "Book" "title" number)) := by
    have hmem : title ∈ (Entity.mk "Book" [title]).fields := List.mem_cons_self
    rw [← sampleValue_of_isSpoken (show IsSpoken title.name from .inl rfl)]
    exact member?_sampleRow (by decide) hmem number
  refine ⟨by decide, _, hdocument, ?_⟩
  rw [entityRows, List.forall_mem_map]
  refine fun place _ ↦ ⟨_, hvalue (place + 1), ?_⟩
  rintro ⟨number, hnumber⟩
  exact Json.noConfusion hnumber

end AppSpec

end WebScaffold
