import WebScaffold.Json.Decode
import WebScaffold.Proofs.Except
import WebScaffold.Proofs.Members

/-!
# Reading records

When a record is read from an object. A field sees of the object only what is found under its name,
so the places of members, which decide between several errors, do not matter once all fields are
read. Lists and records of readable parts are readable.
-/

namespace WebScaffold.Json

/-! ## Entries -/

section

variable {name : String} {entries : List (String × Json)} {v : Json}

theorem exists_entry?_eq_some (h : entries.lookup name = some v) :
    ∃ place, entry? name entries = some (place, v) := by
  have hsome : (entries.findIdx? (·.1 == name)).isSome := by
    rw [List.findIdx?_isSome, List.any_eq_true]
    exact ⟨(name, v), Table.mem_of_lookup h, beq_self_eq_true name⟩
  obtain ⟨place, hplace⟩ := Option.isSome_iff_exists.mp hsome
  refine ⟨place, ?_⟩
  unfold entry?
  rw [hplace, h]

theorem entry?_eq_none (h : entries.lookup name = none) : entry? name entries = none := by
  unfold entry?
  rw [h]
  split <;> simp_all

end

/-! ## Fields -/

namespace Fields

variable {α β : Type}

@[simp]
theorem map_value (f : α → β) (a : α) : (value a).map f = value (f a) := rfl

@[simp]
theorem and_value (f : α → β) (a : α) : (value f).and (value a) = value (f a) := rfl

@[simp]
theorem map_eq_value_iff {f : α → β} {fields : Fields α} {b : β} :
    fields.map f = .value b ↔ ∃ a, fields = .value a ∧ f a = b := by
  cases fields <;> simp [map]

@[simp]
theorem and_eq_value_iff {fields : Fields (α → β)} {more : Fields α} {b : β} :
    fields.and more = .value b ↔ ∃ f a, fields = .value f ∧ more = .value a ∧ f a = b := by
  cases fields <;> cases more <;> simp [Fields.and]

@[simp]
theorem resolve_eq_ok_iff {missing : String → Mismatch} {fields : Fields α} {a : α} :
    fields.resolve missing = .ok a ↔ fields = .value a := by
  cases fields with
  | value b => simp [resolve]
  | faulty faults =>
    simp only [resolve, reduceCtorEq, iff_false]
    split <;> simp

end Fields

section

variable {α : Type} {name : String} {entries : List (String × Json)} {v : Json}
variable {decode : Json → Except Mismatch α} {a absent : α}

@[simp]
theorem fieldAt_eq_value_iff {place : Nat} {found : Except Mismatch α} :
    fieldAt place found = .value a ↔ found = .ok a := by
  cases found <;> simp [fieldAt]

theorem requiredField_eq_value_iff :
    requiredField name decode entries = .value a ↔
      ∃ v, entries.lookup name = some v ∧ decode v = .ok a := by
  unfold requiredField
  cases h : entries.lookup name with
  | none => simp [entry?_eq_none h]
  | some v =>
    obtain ⟨place, hplace⟩ := exists_entry?_eq_some h
    simp [hplace]

theorem defaultedField_eq_value_iff :
    defaultedField name absent decode entries = .value a ↔
      ((entries.lookup name).elim (.ok absent) decode) = .ok a := by
  unfold defaultedField
  cases h : entries.lookup name with
  | none => simp [entry?_eq_none h]
  | some v =>
    obtain ⟨place, hplace⟩ := exists_entry?_eq_some h
    simp [hplace]

theorem optionalField_eq_value_iff {a? : Option α} :
    optionalField name decode entries = .value a? ↔
      ((entries.lookup name).elim (.ok none) (decodeOption decode)) = .ok a? :=
  defaultedField_eq_value_iff

theorem decodeOption_of_ne_null (h : v ≠ .null) : decodeOption decode v = (decode v).map some := by
  cases v <;> first | contradiction | rfl

@[simp]
theorem decodeRecord_object_eq_ok_iff {type : RecordType}
    {read : List (String × Json) → Fields α} :
    decodeRecord type read (.object entries) = .ok a ↔ read entries = .value a := by
  simp [decodeRecord]

@[simp]
theorem decodeRecord_ofMembers_eq_ok_iff {type : RecordType}
    {read : List (String × Json) → Fields α} :
    decodeRecord type read (ofMembers entries) = .ok a ↔ read (Table.ofList entries) = .value a :=
  decodeRecord_object_eq_ok_iff

end

/-! ## Lists -/

section

variable {α : Type} {decode : Json → Except Mismatch α}

theorem decodeList_eq_ok_iff {items : List Json} {as : List α} :
    decodeList decode (.array items) = .ok as ↔
      List.Forall₂ (fun item a ↦ decode item = .ok a) items as :=
  mapM_eq_ok_iff

theorem decodeList_map {encode : α → Json} (h : ∀ a, decode (encode a) = .ok a) (as : List α) :
    decodeList decode (.array (as.map encode)) = .ok as := by
  rw [decodeList_eq_ok_iff, List.forall₂_map_left_iff, List.forall₂_same]
  exact fun a _ ↦ h a

end

end WebScaffold.Json
