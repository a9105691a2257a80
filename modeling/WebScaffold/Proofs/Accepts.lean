import WebScaffold.Proofs.Table
import WebScaffold.Schema.Check

/-!
# Acceptance

What a schema demands of a value, said keyword by keyword without paths and messages. The check
finds nothing wrong with a value exactly when the schema accepts it, wherever the value stands in a
document. For records, acceptance is a statement about look-ups of members, and it survives the
insertion of a member that fits its own schema.
-/

namespace WebScaffold.Schema

open Json

mutual

/-- Whether a value has everything that a schema demands. -/
def Accepts (v : Json) : Schema → Prop
  | text minLength => ∃ s, v = .string s ∧ ∀ least ∈ minLength, least ≤ s.length
  | flag => ∃ b, v = .bool b
  | nothing => v = .null
  | oneOf names => ∃ name ∈ names, v = .string name
  | list minItems item =>
    ∃ items, v = .array items ∧ (∀ part ∈ items, Accepts part item) ∧
      ∀ least ∈ minItems, least ≤ items.length
  | record required properties =>
    ∃ members, v = .object members ∧ (∀ member ∈ members, AcceptsMember member.1 member.2 properties) ∧
      ∀ key ∈ required, (members.lookup key).isSome
  | openRecord => ∃ members, v = .object members
  | anyOf alternatives => AcceptsAny v alternatives
  | definition _ body => Accepts v body

/-- Whether a member has a schema and fits it. -/
def AcceptsMember (key : String) (v : Json) : List (String × Schema) → Prop
  | [] => False
  | (name, schema) :: rest => if name = key then Accepts v schema else AcceptsMember key v rest

def AcceptsAny (v : Json) : List Schema → Prop
  | [] => False
  | schema :: rest => Accepts v schema ∨ AcceptsAny v rest

end

@[simp]
theorem not_accepts_null_text (minLength : Option Nat) : ¬ Accepts .null (.text minLength) :=
  fun ⟨_, hnull, _⟩ ↦ Json.noConfusion hnull

@[simp]
theorem not_accepts_null_flag : ¬ Accepts .null .flag :=
  fun ⟨_, hnull⟩ ↦ Json.noConfusion hnull

@[simp]
theorem not_accepts_null_list (minItems : Option Nat) (item : Schema) :
    ¬ Accepts .null (.list minItems item) :=
  fun ⟨_, hnull, _⟩ ↦ Json.noConfusion hnull

@[simp]
theorem not_accepts_null_openRecord : ¬ Accepts .null .openRecord :=
  fun ⟨_, hnull⟩ ↦ Json.noConfusion hnull

@[simp]
theorem accepts_nil_list (item : Schema) : Accepts (.array []) (.list none item) :=
  ⟨[], rfl, by simp, by simp⟩

/-! ## The check decides acceptance -/

theorem tooShort_eq_nil_iff {path : String} {v : Json} {length : Nat} {verb thing : String}
    {limit : Option Nat} :
    tooShort path v length verb thing limit = [] ↔ ∀ least ∈ limit, least ≤ length := by
  cases limit with
  | none => simp [tooShort]
  | some least =>
    by_cases h : length < least
    · simp [tooShort, h]
    · simp [tooShort, h, Nat.le_of_not_lt h]

theorem unknownMembers_eq_nil_iff {path : String} {keys : List String} :
    unknownMembers path keys = [] ↔ keys = [] := by
  match keys with
  | [] => simp [unknownMembers]
  | [_] => simp [unknownMembers]
  | _ :: _ :: _ => simp [unknownMembers]

/-- No member of a record is wrong and none is unknown exactly when each has a schema that it fits. -/
theorem acceptsMember_iff {key : String} {v : Json} {properties : List (String × Schema)} :
    AcceptsMember key v properties ↔
      ∃ schema, properties.lookup key = some schema ∧ Accepts v schema := by
  induction properties with
  | nil => simp [AcceptsMember]
  | cons property rest ih =>
    obtain ⟨name, schema⟩ := property
    rw [AcceptsMember, Table.lookup_cons]
    by_cases h : name = key
    · simp [h]
    · simp [h, Ne.symm h, ih]

theorem AcceptsMember.mem_names {key : String} {v : Json} {properties : List (String × Schema)}
    (h : AcceptsMember key v properties) : key ∈ properties.map Prod.fst := by
  obtain ⟨schema, hlookup, -⟩ := acceptsMember_iff.1 h
  exact List.mem_map.mpr ⟨_, Table.mem_of_lookup hlookup, rfl⟩

theorem forall_mem_zipIdx {α : Type} (p : α → Prop) (items : List α) :
    (∀ placed ∈ items.zipIdx, p placed.1) ↔ ∀ part ∈ items, p part := by
  conv_rhs => rw [← List.zipIdx_map_fst 0 items]
  exact List.forall_mem_map.symm

mutual

theorem issues_eq_nil_iff (path : String) (v : Json) :
    ∀ schema : Schema, issues path v schema = [] ↔ Accepts v schema
  | text minLength => by
    cases v <;> simp [issues, Accepts, tooShort_eq_nil_iff]
  | flag => by
    cases v <;> simp [issues, Accepts]
  | nothing => by
    simp [issues, Accepts]
  | oneOf names => by
    simp [issues, Accepts]
  | list minItems item => by
    cases v with
    | array items =>
      have hitems : (∀ placed ∈ items.zipIdx, issues (path ++ s!"/{placed.2}") placed.1 item = []) ↔
          ∀ part ∈ items, Accepts part item :=
        Iff.trans (forall₂_congr fun _ _ ↦ issues_eq_nil_iff _ _ item)
          (forall_mem_zipIdx (Accepts · item) items)
      simp only [issues, Accepts, List.append_eq_nil_iff, List.flatMap_eq_nil_iff,
        tooShort_eq_nil_iff, hitems, array.injEq, exists_eq_left']
    | _ => simp [issues, Accepts]
  | record required properties => by
    cases v with
    | object members =>
      have hmembers :
          ((∀ member ∈ members,
              memberIssues (path ++ "/" ++ member.1) member.1 member.2 properties = []) ∧
            ∀ key ∈ members.map Prod.fst, key ∈ properties.map Prod.fst) ↔
          ∀ member ∈ members, AcceptsMember member.1 member.2 properties := by
        rw [List.forall_mem_map, ← forall₂_and]
        refine forall₂_congr fun member _ ↦ ⟨fun h ↦ ?_, fun h ↦ ⟨?_, h.mem_names⟩⟩
        · exact (memberIssues_eq_nil_iff _ _ _ properties h.2).mp h.1
        · exact (memberIssues_eq_nil_iff _ _ _ properties h.mem_names).mpr h
      simp only [issues, Accepts, List.append_eq_nil_iff, List.flatMap_eq_nil_iff,
        unknownMembers_eq_nil_iff, List.filter_eq_nil_iff, List.map_eq_nil_iff,
        Bool.not_eq_true', Bool.not_eq_false, List.contains_iff_mem, hmembers,
        Table.lookup_isSome_iff_mem, object.injEq, exists_eq_left']
    | _ => simp [issues, Accepts]
  | openRecord => by
    cases v <;> simp [issues, Accepts]
  | anyOf alternatives => by
    simp [issues, Accepts, fitsAny_iff path v alternatives]
  | definition _ body => by
    rw [issues, Accepts, issues_eq_nil_iff path v body]

/-- A known member has no issues exactly when it fits; an unknown one is not looked at here. -/
theorem memberIssues_eq_nil_iff (path key : String) (v : Json) :
    ∀ properties : List (String × Schema), key ∈ properties.map Prod.fst →
      (memberIssues path key v properties = [] ↔ AcceptsMember key v properties)
  | [] => by simp
  | (name, schema) :: rest => fun h ↦ by
    rw [memberIssues, AcceptsMember]
    split_ifs with hname
    · exact issues_eq_nil_iff path v schema
    · refine memberIssues_eq_nil_iff path key v rest ?_
      simpa [Ne.symm hname] using h

theorem fitsAny_iff (path : String) (v : Json) :
    ∀ alternatives : List Schema, fitsAny path v alternatives = true ↔ AcceptsAny v alternatives
  | [] => by simp [fitsAny, AcceptsAny]
  | schema :: rest => by
    rw [fitsAny, AcceptsAny, Bool.or_eq_true, List.isEmpty_iff, issues_eq_nil_iff path v schema,
      fitsAny_iff path v rest]

end

/-! ## Records -/

section

variable {required : List String} {properties : List (String × Schema)}
variable {members : List (String × Json)} {key : String} {schema : Schema} {v : Json}

theorem accepts_object_iff :
    Accepts (.object members) (.record required properties) ↔
      (∀ member ∈ members, AcceptsMember member.1 member.2 properties) ∧
        ∀ key ∈ required, (members.lookup key).isSome := by
  simp [Accepts]

theorem Accepts.of_lookup (h : Accepts (.object members) (.record required properties))
    (hv : members.lookup key = some v) (hschema : properties.lookup key = some schema) :
    Accepts v schema := by
  obtain ⟨found, hfound, haccepts⟩ :=
    acceptsMember_iff.1 ((accepts_object_iff.1 h).1 _ (Table.mem_of_lookup hv))
  obtain rfl : found = schema := Option.some.inj (hfound.symm.trans hschema)
  exact haccepts

theorem Accepts.exists_required (h : Accepts (.object members) (.record required properties))
    (hkey : key ∈ required) (hschema : properties.lookup key = some schema) :
    ∃ v, members.lookup key = some v ∧ Accepts v schema := by
  obtain ⟨v, hv⟩ := Option.isSome_iff_exists.mp ((accepts_object_iff.1 h).2 key hkey)
  exact ⟨v, hv, h.of_lookup hv hschema⟩

theorem Accepts.lookup_eq_none (h : Accepts (.object members) (.record required properties))
    (hkey : key ∉ properties.map Prod.fst) : members.lookup key = none := by
  by_contra hsome
  obtain ⟨v, hv⟩ := Option.ne_none_iff_exists'.mp hsome
  exact hkey ((accepts_object_iff.1 h).1 _ (Table.mem_of_lookup hv)).mem_names

/-- A member that fits its schema may take the place of another one or be new. -/
theorem Accepts.insert (h : Accepts (.object members) (.record required properties))
    (hschema : properties.lookup key = some schema) (hv : Accepts v schema) :
    Accepts (.object (Table.insert key v members)) (.record required properties) := by
  obtain ⟨hmembers, hrequired⟩ := accepts_object_iff.1 h
  refine accepts_object_iff.2 ⟨fun member hmember ↦ ?_, fun other hother ↦ ?_⟩
  · rcases Table.mem_insert hmember with rfl | hmember
    · exact acceptsMember_iff.2 ⟨schema, hschema, hv⟩
    · exact hmembers member hmember
  · by_cases heq : other = key
    · simp [heq]
    · rw [Table.lookup_insert_of_ne heq]
      exact hrequired other hother

theorem accepts_ofMembers {entries : List (String × Json)}
    (hentries : ∀ entry ∈ entries, AcceptsMember entry.1 entry.2 properties)
    (hrequired : ∀ key ∈ required, key ∈ entries.map Prod.fst) :
    Accepts (ofMembers entries) (.record required properties) := by
  refine accepts_object_iff.2 ⟨fun member hmember ↦ hentries member (Table.mem_ofList hmember),
    fun key hkey ↦ ?_⟩
  rw [Table.lookup_ofList, Table.lookup_isSome_iff_mem, List.map_reverse, List.mem_reverse]
  exact hrequired key hkey

end

end WebScaffold.Schema
