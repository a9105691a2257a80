import Mathlib.Tactic.Common
import WebScaffold.Table

/-!
# Entries of tables

What a table holds after an insertion, whether its keys increase then, and that increasing keys
leave a table no choice: two increasing tables with the same entry under each key are equal. A
table that is made from entries therefore equals any increasing table in which the same values are
found.
-/

namespace WebScaffold.Table

variable {α : Type}

/-! ## Insertion -/

theorem lookup_cons (key k : String) (v : α) (rest : Table α) :
    List.lookup key ((k, v) :: rest) = if key = k then some v else rest.lookup key := by
  by_cases h : key = k
  · simp [h]
  · have hbeq : (key == k) = false := beq_eq_false_iff_ne.mpr h
    rw [List.lookup_cons, hbeq, if_neg h]

theorem insert_nil (key : String) (value : α) : insert key value [] = [(key, value)] := rfl

theorem insert_cons (key k : String) (value v : α) (rest : Table α) :
    insert key value ((k, v) :: rest) =
      if key < k then (key, value) :: (k, v) :: rest
      else if key = k then (key, value) :: rest
      else (k, v) :: insert key value rest := rfl

theorem lookup_insert (key other : String) (value : α) (table : Table α) :
    (insert key value table).lookup other =
      if other = key then some value else table.lookup other := by
  induction table with
  | nil => rw [insert_nil, lookup_cons]
  | cons entry rest ih =>
    obtain ⟨k, v⟩ := entry
    rw [insert_cons]
    by_cases hlt : key < k
    · rw [if_pos hlt, lookup_cons]
    · rw [if_neg hlt]
      by_cases heq : key = k
      · subst heq
        rw [if_pos rfl, lookup_cons, lookup_cons]
        split_ifs <;> rfl
      · rw [if_neg heq, lookup_cons, ih, lookup_cons]
        -- the head stays in front and answers for its own key only
        by_cases hhead : other = k
        · rw [if_pos hhead, if_neg fun h ↦ heq (h.symm.trans hhead), if_pos hhead]
        · rw [if_neg hhead, if_neg hhead]

@[simp]
theorem lookup_insert_self (key : String) (value : α) (table : Table α) :
    (insert key value table).lookup key = some value := by
  simp [lookup_insert]

theorem lookup_insert_of_ne {key other : String} (h : other ≠ key) (value : α)
    (table : Table α) : (insert key value table).lookup other = table.lookup other := by
  simp [lookup_insert, h]

theorem mem_insert {key : String} {value : α} {table : Table α} {entry : String × α}
    (h : entry ∈ insert key value table) : entry = (key, value) ∨ entry ∈ table := by
  induction table with
  | nil => simpa [insert_nil] using h
  | cons head rest ih =>
    obtain ⟨k, v⟩ := head
    rw [insert_cons] at h
    split_ifs at h with hlt heq
    · simpa using h
    · rcases List.mem_cons.mp h with h | h
      · exact .inl h
      · exact .inr (List.mem_cons_of_mem _ h)
    · rcases List.mem_cons.mp h with h | h
      · exact .inr (List.mem_cons.mpr (.inl h))
      · exact (ih h).imp_right (List.mem_cons_of_mem _)

theorem increasing_insert (key : String) (value : α) {table : Table α}
    (htable : Increasing table) : Increasing (insert key value table) := by
  induction table with
  | nil => simp [insert_nil, Increasing]
  | cons head rest ih =>
    obtain ⟨k, v⟩ := head
    obtain ⟨hhead, hrest⟩ := List.pairwise_cons.mp htable
    rw [insert_cons]
    split_ifs with hlt heq
    · refine List.pairwise_cons.mpr ⟨fun entry hentry ↦ ?_, htable⟩
      rcases List.mem_cons.mp hentry with rfl | hentry
      · exact hlt
      · exact String.lt_trans hlt (hhead entry hentry)
    · subst heq
      exact List.pairwise_cons.mpr ⟨hhead, hrest⟩
    · have hk : k < key := by
        rcases String.le_total k key with hle | hle
        · exact Decidable.byContradiction fun hnot ↦
            heq (String.le_antisymm (String.not_lt.mp hnot) hle)
        · exact absurd (String.le_antisymm hle (String.not_lt.mp hlt)) heq
      refine List.pairwise_cons.mpr ⟨fun entry hentry ↦ ?_, ih hrest⟩
      rcases mem_insert hentry with rfl | hentry
      · exact hk
      · exact hhead entry hentry

/-- An insertion is forgotten with the entry that it made. -/
theorem filter_insert (key : String) (value : α) (table : Table α) :
    (insert key value table).filter (·.1 ≠ key) = table.filter (·.1 ≠ key) := by
  induction table with
  | nil => simp [insert_nil]
  | cons head rest ih =>
    obtain ⟨k, v⟩ := head
    rw [insert_cons]
    split_ifs with hlt heq
    · simp
    · simp [heq]
    · rw [List.filter_cons, List.filter_cons, ih]

/-! ## Tables of entries -/

theorem lookup_insertAll (entries : List (String × α)) (table : Table α) (key : String) :
    (insertAll table entries).lookup key =
      (entries.reverse.lookup key).or (table.lookup key) := by
  induction entries generalizing table with
  | nil => simp [insertAll]
  | cons entry rest ih =>
    obtain ⟨k, v⟩ := entry
    change (insertAll (insert k v table) rest).lookup key = _
    rw [ih, lookup_insert, List.reverse_cons, List.lookup_append, Option.or_assoc]
    by_cases hkey : key = k <;> simp [hkey, lookup_cons]

/-- Of several entries under a key the last one is found. -/
theorem lookup_ofList (entries : List (String × α)) (key : String) :
    (ofList entries).lookup key = entries.reverse.lookup key := by
  simp [ofList, lookup_insertAll]

theorem mem_insertAll {entries : List (String × α)} {table : Table α} {entry : String × α}
    (h : entry ∈ insertAll table entries) : entry ∈ entries ∨ entry ∈ table := by
  induction entries generalizing table with
  | nil => exact .inr h
  | cons head rest ih =>
    rcases ih h with h | h
    · exact .inl (List.mem_cons_of_mem _ h)
    · rcases mem_insert h with rfl | h
      · exact .inl List.mem_cons_self
      · exact .inr h

theorem mem_ofList {entries : List (String × α)} {entry : String × α}
    (h : entry ∈ ofList entries) : entry ∈ entries := by
  simpa using mem_insertAll h

theorem increasing_insertAll (entries : List (String × α)) {table : Table α}
    (htable : Increasing table) : Increasing (insertAll table entries) := by
  induction entries generalizing table with
  | nil => exact htable
  | cons entry rest ih => exact ih (increasing_insert entry.1 entry.2 htable)

theorem increasing_ofList (entries : List (String × α)) : Increasing (ofList entries) :=
  increasing_insertAll entries List.Pairwise.nil

theorem nodup_keys {table : Table α} (h : Increasing table) : (table.map Prod.fst).Nodup := by
  refine List.pairwise_map.mpr (List.Pairwise.imp ?_ h)
  intro a b hlt heq
  exact String.lt_irrefl b.1 (heq ▸ hlt)

/-! ## Look-ups -/

theorem lookup_of_mem {table : Table α} (htable : Increasing table) {entry : String × α}
    (hentry : entry ∈ table) : table.lookup entry.1 = some entry.2 := by
  induction table with
  | nil => simp at hentry
  | cons head rest ih =>
    obtain ⟨hhead, hrest⟩ := List.pairwise_cons.mp htable
    rcases List.mem_cons.mp hentry with rfl | hentry
    · exact List.lookup_cons_self
    · have hne : entry.1 ≠ head.1 := fun heq ↦
        String.lt_irrefl head.1 (heq ▸ hhead entry hentry)
      rw [lookup_cons, if_neg hne, ih hrest hentry]

theorem lookup_eq_none_of_lt {key : String} {table : Table α}
    (h : ∀ entry ∈ table, key < entry.1) : table.lookup key = none := by
  rw [List.lookup_eq_none_iff]
  intro entry hentry
  exact bne_iff_ne.mpr fun heq ↦ String.lt_irrefl key (heq ▸ h entry hentry)

theorem lookup_isSome_iff_mem {key : String} {table : Table α} :
    (table.lookup key).isSome ↔ key ∈ table.map Prod.fst := by
  rw [List.lookup_isSome_iff, List.mem_map]
  constructor
  · rintro ⟨entry, hentry, hkey⟩
    exact ⟨entry, hentry, (beq_iff_eq.mp hkey).symm⟩
  · rintro ⟨entry, hentry, rfl⟩
    exact ⟨entry, hentry, beq_self_eq_true _⟩

theorem mem_of_lookup {table : Table α} {key : String} {value : α}
    (h : table.lookup key = some value) : (key, value) ∈ table := by
  obtain ⟨front, back, rfl, -⟩ := List.lookup_eq_some_iff.mp h
  simp

/-- Nothing but the entry under a key decides whether it survives, as no key comes twice. -/
theorem lookup_filter {table : Table α} (htable : Increasing table) (p : String × α → Bool)
    (key : String) :
    (table.filter p).lookup key = (table.lookup key).filter fun value ↦ p (key, value) := by
  induction table with
  | nil => rfl
  | cons head rest ih =>
    obtain ⟨k, v⟩ := head
    obtain ⟨hhead, hrest⟩ := List.pairwise_cons.mp htable
    rw [List.filter_cons, lookup_cons]
    by_cases hkey : key = k
    · subst hkey
      have hnone : rest.lookup key = none := lookup_eq_none_of_lt hhead
      rw [if_pos rfl, Option.filter_some]
      cases hp : p (key, v) with
      | true => simp
      | false => simp [ih hrest, hnone]
    · rw [if_neg hkey, ← ih hrest]
      cases hp : p (k, v) with
      | true => rw [if_pos rfl, lookup_cons, if_neg hkey]
      | false => simp

theorem lookup_map_value (f : String → α → α) (table : Table α) (key : String) :
    (table.map fun (k, v) ↦ (k, f k v)).lookup key = (table.lookup key).map (f key) := by
  induction table with
  | nil => rfl
  | cons head rest ih =>
    obtain ⟨k, v⟩ := head
    rw [List.map_cons, lookup_cons, lookup_cons, ih]
    split_ifs with hkey
    · rw [hkey, Option.map_some]
    · rfl

theorem increasing_map_value (f : String → α → α) {table : Table α} (htable : Increasing table) :
    Increasing (table.map fun (k, v) ↦ (k, f k v)) :=
  List.pairwise_map.mpr htable

theorem increasing_filter (p : String × α → Bool) {table : Table α} (htable : Increasing table) :
    Increasing (table.filter p) :=
  List.Pairwise.filter p htable

/-! ## Equality -/

/-- Increasing tables with the same entry under each key are equal. -/
theorem ext_lookup {left right : Table α} (hleft : Increasing left) (hright : Increasing right)
    (h : ∀ key, left.lookup key = right.lookup key) : left = right := by
  have hmem (entry : String × α) : entry ∈ left ↔ entry ∈ right :=
    ⟨fun hentry ↦ mem_of_lookup ((h entry.1).symm.trans (lookup_of_mem hleft hentry)),
      fun hentry ↦ mem_of_lookup ((h entry.1).trans (lookup_of_mem hright hentry))⟩
  have hnodup {table : Table α} (htable : Increasing table) : table.Nodup := by
    refine List.Pairwise.imp ?_ htable
    rintro entry _ hlt rfl
    exact String.lt_irrefl entry.1 hlt
  have hperm : left.Perm right :=
    (List.perm_ext_iff_of_nodup (hnodup hleft) (hnodup hright)).mpr hmem
  exact hperm.eq_of_pairwise (fun a b _ _ hab hba ↦ absurd hba (String.lt_asymm hab))
    hleft hright

/-- Putting in what is there already changes nothing. -/
theorem insert_eq_self {table : Table α} (htable : Increasing table) {key : String} {value : α}
    (h : table.lookup key = some value) : insert key value table = table := by
  refine ext_lookup (increasing_insert key value htable) htable fun other ↦ ?_
  by_cases hother : other = key
  · rw [hother, lookup_insert_self, h]
  · rw [lookup_insert_of_ne hother]

/-- Of two insertions under a key the later one counts. -/
theorem insert_insert_self {table : Table α} (htable : Increasing table) (key : String)
    (old new : α) : insert key new (insert key old table) = insert key new table := by
  have hold : Increasing (insert key old table) := increasing_insert key old htable
  refine ext_lookup (increasing_insert key new hold) (increasing_insert key new htable)
    fun other ↦ ?_
  rw [lookup_insert, lookup_insert, lookup_insert]
  split_ifs <;> rfl

/-- Insertions under different keys may change places. -/
theorem insert_comm {table : Table α} (htable : Increasing table) {left right : String}
    (hne : left ≠ right) (a b : α) :
    insert left a (insert right b table) = insert right b (insert left a table) := by
  refine ext_lookup (increasing_insert left a (increasing_insert right b htable))
    (increasing_insert right b (increasing_insert left a htable)) fun other ↦ ?_
  simp only [lookup_insert]
  by_cases hleft : other = left
  · rw [if_pos hleft, if_neg fun hright ↦ hne (hleft.symm.trans hright), if_pos hleft]
  · rw [if_neg hleft, if_neg hleft]

theorem ofList_eq_of_lookup {entries : List (String × α)} {table : Table α}
    (htable : Increasing table) (h : ∀ key, entries.reverse.lookup key = table.lookup key) :
    ofList entries = table :=
  ext_lookup (increasing_ofList entries) htable fun key ↦ (lookup_ofList entries key).trans (h key)

/-! ## Entries in order -/

theorem insert_of_forall_lt {table : Table α} {key : String} (h : ∀ entry ∈ table, entry.1 < key)
    (value : α) : insert key value table = table ++ [(key, value)] := by
  induction table with
  | nil => rfl
  | cons entry rest ih =>
    obtain ⟨hlt, hrest⟩ := List.forall_mem_cons.1 h
    have hne : key ≠ entry.1 := fun heq ↦ String.lt_irrefl key (by rwa [← heq] at hlt)
    rw [insert_cons, if_neg (String.lt_asymm hlt), if_neg hne, ih hrest, List.cons_append]

theorem insertAll_of_increasing {table : Table α} {entries : List (String × α)}
    (h : Increasing (table ++ entries)) : insertAll table entries = table ++ entries := by
  induction entries generalizing table with
  | nil => exact (List.append_nil table).symm
  | cons entry rest ih =>
    have hlast : ∀ earlier ∈ table, earlier.1 < entry.1 := fun earlier hearlier ↦
      (List.pairwise_append.1 h).2.2 earlier hearlier entry List.mem_cons_self
    have hinsert : insert entry.1 entry.2 table = table ++ [entry] := insert_of_forall_lt hlast _
    calc insertAll table (entry :: rest)
      _ = insertAll (insert entry.1 entry.2 table) rest := rfl
      _ = insertAll (table ++ [entry]) rest := by rw [hinsert]
      _ = table ++ entry :: rest := by
          rw [ih (by rwa [List.append_assoc]), List.append_assoc, List.singleton_append]

/-- Entries that stand in order are a table already. -/
theorem ofList_of_increasing {entries : List (String × α)} (h : Increasing entries) :
    ofList entries = entries :=
  insertAll_of_increasing h

end WebScaffold.Table
