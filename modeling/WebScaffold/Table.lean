/-!
# Tables

Values under text keys, listed in increasing key order with each key once. The order is that of code
points. Tables with the same entries are equal.
-/

namespace WebScaffold

abbrev Table (α : Type) := List (String × α)

namespace Table

variable {α : Type}

/-- Puts an entry at its place, in the stead of one with the same key. -/
def insert (key : String) (value : α) : Table α → Table α
  | [] => [(key, value)]
  | (k, v) :: rest =>
    if key < k then (key, value) :: (k, v) :: rest
    else if key = k then (key, value) :: rest
    else (k, v) :: insert key value rest

/-- Adds entries one after the other. -/
def insertAll (table : Table α) (entries : List (String × α)) : Table α :=
  entries.foldl (fun sorted (k, v) ↦ insert k v sorted) table

/-- The table of the given entries; of two with the same key the later one counts. -/
def ofList (entries : List (String × α)) : Table α :=
  insertAll [] entries

/-- Whether the keys increase. -/
def Increasing (table : Table α) : Prop :=
  table.Pairwise (·.1 < ·.1)

instance (table : Table α) : Decidable (Increasing table) :=
  inferInstanceAs (Decidable (table.Pairwise (·.1 < ·.1)))

end Table

end WebScaffold
