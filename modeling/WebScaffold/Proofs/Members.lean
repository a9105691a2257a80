import WebScaffold.Json.Basic
import WebScaffold.Proofs.Table

/-!
# Changing members

Changes of single members of a document, at the top or along a path of keys, and what is found in a
document after such a change. A document whose objects list their members in increasing key order
stays so.
-/

namespace WebScaffold.Json

/-- Applies a function to the member under a key. -/
def adjust (key : String) (f : Json → Json) : Json → Json
  | object members => object (members.map fun (k, v) ↦ (k, if k = key then f v else v))
  | v => v

/-- Puts in a member unless there is one under its key. -/
def supply (key : String) (value : Json) : Json → Json
  | object members =>
    object (if (members.lookup key).isSome then members else Table.insert key value members)
  | v => v

/-- Leaves out the member under a key if it is null. -/
def dropNull (key : String) : Json → Json
  | object members => object (members.filter fun (k, v) ↦ ¬ (k = key ∧ v = null))
  | v => v

/-- Puts a value at a path of keys. Objects that are missing on the way are made; what has no members
is left alone. -/
def put (value : Json) : List String → Json → Json
  | [], _ => value
  | key :: path, object members =>
    object (Table.insert key (put value path ((members.lookup key).getD (object []))) members)
  | _ :: _, v => v

/-- Takes out the member at a path of keys, if it is there. -/
def without : List String → Json → Json
  | [key], object members => object (members.filter (·.1 ≠ key))
  | key :: path, v => adjust key (without path) v
  | [], v => v

/-! ## Order -/

theorem orderedItems_iff {items : List Json} : OrderedItems items ↔ ∀ item ∈ items, item.Ordered := by
  induction items with
  | nil => exact iff_of_true trivial (List.forall_mem_nil _)
  | cons item items ih =>
    rw [List.forall_mem_cons, ← ih]
    exact Iff.rfl

theorem orderedMembers_iff {members : List (String × Json)} :
    OrderedMembers members ↔ ∀ member ∈ members, member.2.Ordered := by
  induction members with
  | nil => exact iff_of_true trivial (List.forall_mem_nil _)
  | cons member members ih =>
    rw [List.forall_mem_cons, ← ih]
    exact Iff.rfl

theorem ordered_object_iff {members : List (String × Json)} :
    (object members).Ordered ↔
      Table.Increasing members ∧ ∀ member ∈ members, member.2.Ordered :=
  and_congr_right fun _ ↦ orderedMembers_iff

theorem ordered_array_iff {items : List Json} :
    (array items).Ordered ↔ ∀ item ∈ items, item.Ordered :=
  orderedItems_iff

theorem Ordered.of_lookup {members : List (String × Json)} {key : String} {v : Json}
    (h : (object members).Ordered) (hv : members.lookup key = some v) : v.Ordered :=
  (ordered_object_iff.1 h).2 _ (Table.mem_of_lookup hv)

theorem Ordered.insert {members : List (String × Json)} {key : String} {v : Json}
    (h : (object members).Ordered) (hv : v.Ordered) :
    (object (Table.insert key v members)).Ordered := by
  obtain ⟨hincreasing, hmembers⟩ := ordered_object_iff.1 h
  refine ordered_object_iff.2 ⟨Table.increasing_insert key v hincreasing, fun member hmember ↦ ?_⟩
  rcases Table.mem_insert hmember with rfl | hmember
  · exact hv
  · exact hmembers member hmember

theorem Ordered.getD_lookup {members : List (String × Json)} (h : (object members).Ordered)
    (key : String) : ((members.lookup key).getD (object [])).Ordered := by
  cases hlookup : members.lookup key with
  | none => exact ordered_object_iff.2 ⟨List.Pairwise.nil, List.forall_mem_nil _⟩
  | some v => exact h.of_lookup hlookup

theorem Ordered.put {value v : Json} (hvalue : value.Ordered) (hv : v.Ordered)
    (path : List String) : (put value path v).Ordered := by
  induction path generalizing v with
  | nil => exact hvalue
  | cons key path ih =>
    cases v with
    | object members => exact hv.insert (ih (hv.getD_lookup key))
    | _ => exact hv

/-! ## What is found after a change -/

section

variable {members : List (String × Json)}

theorem exists_adjust_object (key : String) (f : Json → Json) (hincreasing : Table.Increasing members) :
    ∃ adjusted, adjust key f (object members) = object adjusted ∧ Table.Increasing adjusted ∧
      ∀ other, adjusted.lookup other =
        if other = key then (members.lookup key).map f else members.lookup other := by
  refine ⟨_, rfl, Table.increasing_map_value (fun k v ↦ if k = key then f v else v) hincreasing,
    fun other ↦ ?_⟩
  rw [Table.lookup_map_value (fun k v ↦ if k = key then f v else v)]
  by_cases hother : other = key <;> simp [hother]

theorem exists_supply_object (key : String) (value : Json)
    (hincreasing : Table.Increasing members) :
    ∃ supplied, supply key value (object members) = object supplied ∧ Table.Increasing supplied ∧
      ∀ other, supplied.lookup other =
        if other = key then some ((members.lookup key).getD value) else members.lookup other := by
  refine ⟨_, rfl, ?_, fun other ↦ ?_⟩
  · split_ifs
    · exact hincreasing
    · exact Table.increasing_insert key value hincreasing
  · cases h : members.lookup key with
    | none => simp [Table.lookup_insert]
    | some v => by_cases hother : other = key <;> simp [hother, h]

theorem exists_dropNull_object (key : String) (hincreasing : Table.Increasing members) :
    ∃ kept, dropNull key (object members) = object kept ∧ Table.Increasing kept ∧
      ∀ other, kept.lookup other =
        if other = key then (members.lookup key).filter (· ≠ null) else members.lookup other := by
  refine ⟨_, rfl, Table.increasing_filter _ hincreasing, fun other ↦ ?_⟩
  rw [Table.lookup_filter hincreasing]
  by_cases hother : other = key
  · simp [hother]
  · cases members.lookup other <;> simp [hother]

/-- A new value under a key does not show behind a function that does not tell it from the old one. -/
theorem adjust_insert {key : String} {f : Json → Json} {old new : Json}
    (hincreasing : Table.Increasing members) (hold : members.lookup key = some old)
    (hsame : f new = f old) :
    adjust key f (object (Table.insert key new members)) = adjust key f (object members) := by
  obtain ⟨left, hleft, hleftIncreasing, hleftLookup⟩ :=
    exists_adjust_object key f (Table.increasing_insert key new hincreasing)
  obtain ⟨right, hright, hrightIncreasing, hrightLookup⟩ := exists_adjust_object key f hincreasing
  rw [hleft, hright]
  refine congrArg object (Table.ext_lookup hleftIncreasing hrightIncreasing fun other ↦ ?_)
  rw [hleftLookup, hrightLookup, Table.lookup_insert_self, hold]
  by_cases hother : other = key
  · simp [hother, hsame]
  · simp [hother, Table.lookup_insert_of_ne hother]

theorem without_insert_self (key : String) (value : Json) (members : List (String × Json)) :
    without [key] (object (Table.insert key value members)) = without [key] (object members) :=
  congrArg object (Table.filter_insert key value members)

/-- Of two values that are put at a path the later one counts. -/
theorem put_put_self {v : Json} (hv : v.Ordered) (path : List String) (old new : Json) :
    put new path (put old path v) = put new path v := by
  induction path generalizing v with
  | nil => rfl
  | cons key path ih =>
    cases v with
    | object members =>
      have hincreasing : Table.Increasing members := (ordered_object_iff.1 hv).1
      simp only [put, Table.lookup_insert_self, Option.getD_some, ih (hv.getD_lookup key),
        Table.insert_insert_self hincreasing]
    | _ => rfl

/-- Values that are put under different members do not see each other. -/
theorem put_comm {v : Json} (hv : v.Ordered) {left right : String} (hne : left ≠ right)
    (leftPath rightPath : List String) (a b : Json) :
    put a (left :: leftPath) (put b (right :: rightPath) v) =
      put b (right :: rightPath) (put a (left :: leftPath) v) := by
  cases v with
  | object members =>
    have hincreasing : Table.Increasing members := (ordered_object_iff.1 hv).1
    simp only [put, Table.lookup_insert_of_ne hne, Table.lookup_insert_of_ne hne.symm,
      Table.insert_comm hincreasing hne]
  | _ => rfl

theorem without_eq_self {key : String} (h : members.lookup key = none) :
    without [key] (object members) = object members := by
  have hne : ∀ member ∈ members, decide (member.1 ≠ key) = true := by
    intro member hmember
    have hother := List.lookup_eq_none_iff.mp h member hmember
    exact decide_eq_true (bne_iff_ne.mp hother).symm
  rw [without, List.filter_eq_self.mpr hne]

end

end WebScaffold.Json
