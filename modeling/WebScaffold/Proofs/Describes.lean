import WebScaffold.Proofs.Accepts
import WebScaffold.Proofs.Decode
import WebScaffold.Spec.Schema
import WebScaffold.Spec.Wire

/-!
# Schemas that describe types

When a schema fits a type's decoder and encoder. Every value of the type can be written and read
back, and every document that the schema accepts can be read; the value is then written in a form
that the schema accepts as well, and that differs from the document in a stated way only. The
members of a record are looked at one by one here, so that a record type needs no more than a list
of its fields.
-/

namespace WebScaffold

open Json Schema

/-- A schema fits a decoder and an encoder, and `written` says how an accepted document reads when
its value is written again. -/
structure Schema.Describes {α : Type} (schema : Schema) (decode : Json → Except Mismatch α)
    (encode : α → Json) (written : Json → Json) : Prop where
  decode_encode : ∀ a, decode (encode a) = .ok a
  exists_decode : ∀ v, Accepts v schema →
    ∃ a, decode v = .ok a ∧ Accepts (encode a) schema ∧ (v.Ordered → encode a = written v)

namespace Schema.Describes

variable {α : Type} {schema : Schema} {decode : Json → Except Mismatch α} {encode : α → Json}
variable {written : Json → Json}

/-! ## Scalars and lists -/

theorem text (minLength : Option Nat) : Describes (.text minLength) decodeString .string id where
  decode_encode _ := rfl
  exists_decode v hv := by
    obtain ⟨s, rfl, hs⟩ := hv
    exact ⟨s, rfl, ⟨s, rfl, hs⟩, fun _ ↦ rfl⟩

theorem flag : Describes .flag decodeBool .bool id where
  decode_encode _ := rfl
  exists_decode v hv := by
    obtain ⟨b, rfl⟩ := hv
    exact ⟨b, rfl, ⟨b, rfl⟩, fun _ ↦ rfl⟩

theorem openRecord : Describes .openRecord decodeMembers .object id where
  decode_encode _ := rfl
  exists_decode v hv := by
    obtain ⟨members, rfl⟩ := hv
    exact ⟨members, rfl, ⟨members, rfl⟩, fun _ ↦ rfl⟩

theorem choice (α : Type) [Variant α] :
    Describes (AppSpec.choice α) (decodeVariant : Json → Except Mismatch α) encodeVariant id where
  decode_encode a := by
    simp [encodeVariant, decodeVariant, variantOfName, Variant.ofName?_name]
  exists_decode v hv := by
    obtain ⟨name, hname, rfl⟩ := hv
    obtain ⟨a, -, rfl⟩ := List.mem_map.mp hname
    refine ⟨a, ?_, ⟨_, hname, rfl⟩, fun _ ↦ rfl⟩
    simp [decodeVariant, variantOfName, Variant.ofName?_name]

theorem definition (name : String) (h : Describes schema decode encode written) :
    Describes (.definition name schema) decode encode written where
  decode_encode := h.decode_encode
  exists_decode := h.exists_decode

/-- The items of a list are read one by one and keep their order. -/
theorem exists_decode_items (h : Describes schema decode encode id) {items : List Json}
    (hitems : ∀ item ∈ items, Accepts item schema) :
    ∃ as, List.Forall₂ (fun item a ↦ decode item = .ok a) items as ∧
      (∀ a ∈ as, Accepts (encode a) schema) ∧
      ((∀ item ∈ items, item.Ordered) → as.map encode = items) := by
  induction items with
  | nil => exact ⟨[], .nil, by simp, fun _ ↦ rfl⟩
  | cons item items ih =>
    rw [List.forall_mem_cons] at hitems
    obtain ⟨a, ha, haccepts, hwritten⟩ := h.exists_decode item hitems.1
    obtain ⟨as, has, hall, hlist⟩ := ih hitems.2
    refine ⟨a :: as, .cons ha has, List.forall_mem_cons.mpr ⟨haccepts, hall⟩, fun hordered ↦ ?_⟩
    rw [List.forall_mem_cons] at hordered
    rw [List.map_cons, hwritten hordered.1, hlist hordered.2, id_eq]

theorem list (h : Describes schema decode encode id) (minItems : Option Nat) :
    Describes (.list minItems schema) (decodeList decode) (fun as ↦ .array (as.map encode)) id where
  decode_encode := decodeList_map h.decode_encode
  exists_decode v hv := by
    obtain ⟨items, rfl, hitems, hlength⟩ := hv
    obtain ⟨as, has, haccepts, hwritten⟩ := h.exists_decode_items hitems
    refine ⟨as, decodeList_eq_ok_iff.2 has, ⟨_, rfl, List.forall_mem_map.mpr haccepts, ?_⟩,
      fun hordered ↦ ?_⟩
    · rwa [List.length_map, ← has.length_eq]
    · rw [hwritten (ordered_array_iff.1 hordered), id_eq]

/-! ## Members of records -/

section

variable {required : List String} {properties : List (String × Schema)}
variable {members : List (String × Json)}

theorem exists_requiredField_written (h : Describes schema decode encode written) (key : String)
    (hv : Accepts (.object members) (.record required properties)) (hkey : key ∈ required)
    (hschema : properties.lookup key = some schema) :
    ∃ a, requiredField key decode members = .value a ∧ AcceptsMember key (encode a) properties ∧
      ((object members).Ordered → (members.lookup key).map written = some (encode a)) := by
  obtain ⟨v, hlookup, hmember⟩ := hv.exists_required hkey hschema
  obtain ⟨a, ha, haccepts, hwritten⟩ := h.exists_decode v hmember
  refine ⟨a, requiredField_eq_value_iff.2 ⟨v, hlookup, ha⟩,
    acceptsMember_iff.2 ⟨schema, hschema, haccepts⟩, fun hordered ↦ ?_⟩
  rw [hlookup, Option.map_some, hwritten (hordered.of_lookup hlookup)]

theorem exists_requiredField (h : Describes schema decode encode id) (key : String)
    (hv : Accepts (.object members) (.record required properties)) (hkey : key ∈ required)
    (hschema : properties.lookup key = some schema) :
    ∃ a, requiredField key decode members = .value a ∧ AcceptsMember key (encode a) properties ∧
      ((object members).Ordered → members.lookup key = some (encode a)) := by
  simpa only [Option.map_id, id_eq] using h.exists_requiredField_written key hv hkey hschema

/-- A member that may be missing, but not null, is left out again exactly when it was missing. -/
theorem exists_optionalField (h : Describes schema decode encode id) (key : String)
    (hnull : ¬ Accepts .null schema) (hv : Accepts (.object members) (.record required properties))
    (hschema : properties.lookup key = some schema) :
    ∃ a?, optionalField key decode members = .value a? ∧
      (∀ a ∈ a?, AcceptsMember key (encode a) properties) ∧
      ((object members).Ordered → members.lookup key = a?.map encode) := by
  simp only [optionalField_eq_value_iff]
  cases hlookup : members.lookup key with
  | none => exact ⟨none, rfl, by simp, fun _ ↦ rfl⟩
  | some v =>
    have hmember := hv.of_lookup hlookup hschema
    obtain ⟨a, ha, haccepts, hwritten⟩ := h.exists_decode v hmember
    have hne : v ≠ .null := by
      rintro rfl
      exact hnull hmember
    refine ⟨some a, ?_, ?_, fun hordered ↦ ?_⟩
    · simp [decodeOption_of_ne_null hne, ha, Except.map]
    · simpa using acceptsMember_iff.2 ⟨schema, hschema, haccepts⟩
    · rw [Option.map_some, hwritten (hordered.of_lookup hlookup), id_eq]

/-- A member that stands for `absent` when it is missing is always written. -/
theorem exists_defaultedField (h : Describes schema decode encode id) (key : String) (absent : α)
    (habsent : Accepts (encode absent) schema)
    (hv : Accepts (.object members) (.record required properties))
    (hschema : properties.lookup key = some schema) :
    ∃ a, defaultedField key absent decode members = .value a ∧
      AcceptsMember key (encode a) properties ∧
      ((object members).Ordered → (members.lookup key).getD (encode absent) = encode a) := by
  simp only [defaultedField_eq_value_iff]
  cases hlookup : members.lookup key with
  | none =>
    exact ⟨absent, rfl, acceptsMember_iff.2 ⟨schema, hschema, habsent⟩, fun _ ↦ rfl⟩
  | some v =>
    obtain ⟨a, ha, haccepts, hwritten⟩ := h.exists_decode v (hv.of_lookup hlookup hschema)
    refine ⟨a, ha, acceptsMember_iff.2 ⟨schema, hschema, haccepts⟩, fun hordered ↦ ?_⟩
    exact (hwritten (hordered.of_lookup hlookup)).symm

end

end Schema.Describes

/-! ## Written members -/

section

variable {α : Type} {name key : String} {encode : α → Json} {a? : Option α}

@[simp]
theorem lookup_optionalMember :
    (optionalMember name encode a?).lookup key = if key = name then a?.map encode else none := by
  cases a? <;> simp [optionalMember, Table.lookup_cons]

@[simp]
theorem reverse_optionalMember :
    (optionalMember name encode a?).reverse = optionalMember name encode a? := by
  cases a? <;> rfl

@[simp]
theorem forall_mem_optionalMember {p : String × Json → Prop} :
    (∀ entry ∈ optionalMember name encode a?, p entry) ↔ ∀ a ∈ a?, p (name, encode a) := by
  cases a? <;> simp [optionalMember]

end

section

variable {required : List String} {properties : List (String × Schema)}
variable {members entries : List (String × Json)} {written : Json → Json}

/-- A written record is accepted if its members are. It is the changed object if that holds, under the
known keys, just what is written under them, and under other keys what the object held. -/
theorem accepts_and_written
    (haccepts : Accepts (.object members) (.record required properties))
    (hentries : ∀ entry ∈ entries, AcceptsMember entry.1 entry.2 properties)
    (hrequired : ∀ key ∈ required, key ∈ entries.map Prod.fst)
    (hwritten : (object members).Ordered →
      ∃ changed, written (.object members) = .object changed ∧ Table.Increasing changed ∧
        (∀ key ∉ properties.map Prod.fst, changed.lookup key = members.lookup key) ∧
        ∀ key ∈ properties.map Prod.fst, entries.reverse.lookup key = changed.lookup key) :
    Accepts (ofMembers entries) (.record required properties) ∧
      ((object members).Ordered → ofMembers entries = written (.object members)) := by
  refine ⟨accepts_ofMembers hentries hrequired, fun hordered ↦ ?_⟩
  obtain ⟨changed, hchanged, hincreasing, hunknown, hknown⟩ := hwritten hordered
  rw [hchanged]
  refine congrArg object (Table.ofList_eq_of_lookup hincreasing fun key ↦ ?_)
  by_cases hkey : key ∈ properties.map Prod.fst
  · exact hknown key hkey
  · -- a key without a schema is neither written nor found in an accepted object
    rw [hunknown key hkey, haccepts.lookup_eq_none hkey, ← Option.not_isSome_iff_eq_none,
      Table.lookup_isSome_iff_mem, List.map_reverse, List.mem_reverse, List.mem_map]
    rintro ⟨entry, hentry, rfl⟩
    exact hkey (hentries entry hentry).mem_names

/-- The same for a record that is written again just as it was read. -/
theorem accepts_and_written_same
    (haccepts : Accepts (.object members) (.record required properties))
    (hentries : ∀ entry ∈ entries, AcceptsMember entry.1 entry.2 properties)
    (hrequired : ∀ key ∈ required, key ∈ entries.map Prod.fst)
    (hknown : (object members).Ordered →
      ∀ key ∈ properties.map Prod.fst, entries.reverse.lookup key = members.lookup key) :
    Accepts (ofMembers entries) (.record required properties) ∧
      ((object members).Ordered → ofMembers entries = id (.object members)) :=
  accepts_and_written haccepts hentries hrequired fun hordered ↦
    ⟨members, rfl, (ordered_object_iff.1 hordered).1, fun _ _ ↦ rfl, hknown hordered⟩

end

/-- Reading an optional member undoes writing it. -/
theorem elim_decodeOption_encode {α : Type} {decode : Json → Except Mismatch α} {encode : α → Json}
    (hdecode : ∀ a, decode (encode a) = .ok a) (hnull : ∀ a, encode a ≠ .null) (a? : Option α) :
    a?.elim (.ok none) (decodeOption decode ∘ encode) = .ok a? := by
  cases a? with
  | none => rfl
  | some a => simp [decodeOption_of_ne_null (hnull a), hdecode, Except.map]

end WebScaffold
