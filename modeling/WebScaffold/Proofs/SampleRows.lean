import Mathlib.Data.List.Dedup
import Mathlib.Tactic.Common
import WebScaffold.Artifact.SampleRows
import WebScaffold.Proofs.PageModel

/-!
# Collections of the fixtures

The rows of an entity are kept under the name of its collection, which is the entity's name in lower
case with an s at its end. Entities of one collection have one place, and the last of them takes it.
A page of an entity always finds the collection that it reads, with the rows of the last entity of
that collection in it.
-/

namespace WebScaffold

namespace Table

variable {α : Type}

theorem mem_keys_ofList {entries : List (String × α)} {key : String} :
    key ∈ (ofList entries).map Prod.fst ↔ key ∈ entries.map Prod.fst := by
  rw [← lookup_isSome_iff_mem, lookup_ofList, lookup_isSome_iff_mem, List.map_reverse,
    List.mem_reverse]

open scoped List in
theorem perm_keys_ofList (entries : List (String × α)) :
    (ofList entries).map Prod.fst ~ (entries.map Prod.fst).dedup := by
  refine (List.perm_ext_iff_of_nodup (nodup_keys (increasing_ofList entries))
    (List.nodup_dedup _)).2 fun key ↦ ?_
  rw [mem_keys_ofList, List.mem_dedup]

/-- No entry is lost exactly when no key comes twice. -/
theorem length_ofList_eq_iff (entries : List (String × α)) :
    (ofList entries).length = entries.length ↔ (entries.map Prod.fst).Nodup := by
  have hkept : (ofList entries).length = (entries.map Prod.fst).dedup.length := by
    simpa using (perm_keys_ofList entries).length_eq
  have hall : entries.length = (entries.map Prod.fst).length := by
    rw [List.length_map]
  rw [hkept, hall, ← List.dedup_eq_self]
  exact (List.dedup_sublist _).length_eq

/-- Of several entries under a key the last one stays. -/
theorem lookup_ofList_append_cons {front back : List (String × α)} {key : String} {value : α}
    (hback : ∀ entry ∈ back, entry.1 ≠ key) :
    (ofList (front ++ (key, value) :: back)).lookup key = some value := by
  have hnone : back.reverse.lookup key = none := by
    rw [List.lookup_eq_none_iff]
    intro entry hentry
    exact bne_iff_ne.2 (hback entry (List.mem_reverse.1 hentry)).symm
  rw [lookup_ofList, List.reverse_append, List.reverse_cons, List.append_assoc, List.lookup_append,
    hnone, Option.none_or, List.singleton_append, List.lookup_cons_self]

end Table

namespace Artifact

variable {entities : List Entity}

/-- The fixtures: the rows of the entities, one after the other, under their collections. -/
def collections (entities : List Entity) : Table Json :=
  Table.ofList (entities.map fun entity ↦ (collectionName entity, .array (entityRows entity)))

theorem sampleDocument_of_ne_nil (h : entities ≠ []) :
    sampleDocument entities = .object (collections entities) := by
  rw [sampleDocument, if_neg h]
  rfl

/-- No collection is lost exactly when each entity has its own. -/
theorem length_collections_eq_iff (entities : List Entity) :
    (collections entities).length = entities.length ↔ (entities.map collectionName).Nodup := by
  have hlength : (entities.map fun entity ↦
      (collectionName entity, Json.array (entityRows entity))).length = entities.length :=
    List.length_map _
  rw [collections, ← hlength, Table.length_ofList_eq_iff, List.map_map]
  rfl

theorem length_entityRows (entity : Entity) : (entityRows entity).length = rowCount := by
  rw [entityRows, List.length_map, List.length_range]

/-- The last entity of a collection, which keeps it. -/
def Keeps (entities : List Entity) (owner : Entity) (collection : String) : Prop :=
  ∃ front back, entities = front ++ owner :: back ∧ collectionName owner = collection ∧
    ∀ later ∈ back, collectionName later ≠ collection

theorem exists_keeps {entity : Entity} (h : entity ∈ entities) :
    ∃ owner, Keeps entities owner (collectionName entity) := by
  have hfind : (entities.reverse.find? (collectionName · = collectionName entity)).isSome :=
    List.find?_isSome.2 ⟨entity, List.mem_reverse.2 h, by simp⟩
  obtain ⟨owner, howner⟩ := Option.isSome_iff_exists.1 hfind
  obtain ⟨hname, behind, before, hreverse, hbehind⟩ := List.find?_eq_some_iff_append.1 howner
  refine ⟨owner, before.reverse, behind.reverse, ?_, by simpa using hname, ?_⟩
  · have hentities := congrArg List.reverse hreverse
    simpa using hentities
  · intro later hlater
    simpa using hbehind later (List.mem_reverse.1 hlater)

theorem Keeps.lookup_collections {owner : Entity} {collection : String}
    (h : Keeps entities owner collection) :
    (collections entities).lookup collection = some (.array (entityRows owner)) := by
  obtain ⟨front, back, rfl, rfl, hback⟩ := h
  rw [collections, List.map_append, List.map_cons]
  apply Table.lookup_ofList_append_cons
  rw [List.forall_mem_map]
  exact hback

theorem Keeps.eq_of_nodup {owner entity : Entity}
    (h : Keeps entities owner (collectionName entity)) (hentity : entity ∈ entities)
    (hnames : (entities.map collectionName).Nodup) : owner = entity := by
  obtain ⟨front, back, hsplit, hname, -⟩ := h
  have howner : owner ∈ entities := by simp [hsplit]
  exact List.inj_on_of_nodup_map hnames howner hentity hname

end Artifact

namespace AppSpec

open Artifact

/-- No collection is lost exactly when each entity has its own. A page of an entity finds ten rows,
those of the last entity of its collection; they are its own entity's where no collection is
lost. -/
theorem sampleDocument_collections {spec : AppSpec} (hentities : spec.app.entities ≠ []) :
    sampleDocument spec.app.entities = .object (collections spec.app.entities) ∧
      ((collections spec.app.entities).length = spec.app.entities.length ↔
        (spec.app.entities.map collectionName).Nodup) ∧
      ∀ page ∈ spec.features.pages, ∀ route, page.route? = some route →
        ∀ entity ∈ spec.app.entities, page.entity? = some entity.name →
          ∃ owner, Keeps spec.app.entities owner route.collection ∧
            ((spec.app.entities.map collectionName).Nodup → owner = entity) ∧
            (entityRows owner).length = 10 ∧
            (collections spec.app.entities).lookup route.collection =
              some (.array (entityRows owner)) := by
  refine ⟨sampleDocument_of_ne_nil hentities, length_collections_eq_iff _, ?_⟩
  intro page _ route hroute entity hentity hhint
  have hcollection : route.collection = collectionName entity :=
    (PageDescriptor.names_of_hint hroute hhint).1
  rw [hcollection]
  obtain ⟨owner, howner⟩ := exists_keeps hentity
  exact ⟨owner, howner, howner.eq_of_nodup hentity, length_entityRows owner,
    howner.lookup_collections⟩

/-- Two entities with a collection each, and a page of the first. -/
theorem bookshop_sampleDocument_collections :
    let book : Entity := ⟨"Book", [{ name := "pages", type := .int }]⟩
    let order : Entity := ⟨"Order", []⟩
    let page : PageDescriptor :=
      .detailed { path := "/shelf/[id]", purpose := .detail, entity := some "Book" }
    let spec := bookshop .none [.path "/", page] [book, order]
    (collections spec.app.entities).length = 2 ∧
      (collections spec.app.entities).lookup "books" = some (.array (entityRows book)) := by
  intro book order page spec
  have hnames : (spec.app.entities.map collectionName).Nodup := by decide
  have hroute : page.route? = some ⟨"/shelf/[id]", ["shelf", "[id]"], .detail, "books", "book",
      some ⟨"id", false⟩⟩ := by decide
  have hentities : spec.app.entities ≠ [] := List.cons_ne_nil book [order]
  obtain ⟨-, hlength, hpages⟩ := sampleDocument_collections hentities
  obtain ⟨owner, -, howner, -, hrows⟩ := hpages page (List.mem_cons_of_mem _ List.mem_cons_self) _
    hroute book List.mem_cons_self (by decide)
  rw [howner hnames] at hrows
  exact ⟨hlength.2 hnames, hrows⟩

/-- Entities that differ by an s at the end pass both stages of validation. They have one collection
between them, and the page of the first finds the rows of the second. -/
theorem bookshop_collection_lost :
    let book : Entity := ⟨"Book", [{ name := "pages", type := .int }]⟩
    let books : Entity := ⟨"Books", []⟩
    let page : PageDescriptor :=
      .detailed { path := "/shelf", purpose := .list, entity := some "Book" }
    let spec := bookshop .none [.path "/", page] [book, books]
    validate spec.encode = .ok spec ∧
      sampleDocument [book, books] = .ofMembers [("books", .array (entityRows books))] ∧
      (page.route?.map Route.collection) = some "books" ∧
      entityRows books ≠ entityRows book := by
  intro book books page spec
  exact ⟨by decide, by decide, by decide, by decide⟩

end AppSpec

end WebScaffold
