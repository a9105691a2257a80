import WebScaffold.Project
import WebScaffold.Proofs.Members
import WebScaffold.Proofs.Values

/-!
# Values that are read

Every value that is read from a text has its objects in order, whether the text is Json or Yaml. A
reader of lists or of objects only hands on what the reader of their parts yields, so whatever holds
of the parts holds of all items and members; an object is then put together in order.
-/

namespace WebScaffold

namespace Json

variable {α : Type}

/-! ## Parts of Json texts -/

/-- A reader finds only what has a property. -/
def Finds (P : α → Prop) (read : List Char → Attempt (α × List Char)) : Prop :=
  ∀ ⦃cs x rest⦄, read cs = .ok (x, rest) → P x

section

variable {P : α → Prop} {read : List Char → Attempt (α × List Char)} {closer : Char}
variable {readMore : Nat → List Char → Attempt (List α × List Char)}
variable {readParts : List Char → Attempt (List α × List Char)}

theorem Loops.finds_readMore (hloops : Loops read closer readMore readParts) (hread : Finds P read)
    (fuel : Nat) : Finds (fun xs ↦ ∀ x ∈ xs, P x) (readMore fuel) := by
  intro cs xs rest h
  induction fuel generalizing cs xs with
  | zero => exact absurd h hloops.stuck
  | succ fuel ih =>
    rcases hloops.more.1 h with ⟨-, rfl⟩ | ⟨_, _, _, x, _, tail, -, -, -, hx, htail, rfl⟩
    · simp
    · exact List.forall_mem_cons.2 ⟨hread hx, ih htail⟩

theorem Loops.finds_readParts (hloops : Loops read closer readMore readParts)
    (hread : Finds P read) : Finds (fun xs ↦ ∀ x ∈ xs, P x) readParts := by
  intro cs xs rest h
  rcases hloops.parts.1 h with ⟨-, rfl⟩ | ⟨_, _, x, _, tail, -, -, hx, htail, rfl⟩
  · simp
  · exact List.forall_mem_cons.2 ⟨hread hx, hloops.finds_readMore hread _ htail⟩

theorem finds_readQuoted (hread : Finds P read) :
    Finds (fun member ↦ P member.2) (readQuoted read) := by
  intro cs member rest h
  obtain ⟨_, -, hmember⟩ := readQuoted_eq_ok_iff.1 h
  obtain ⟨_, _, _, v, -, -, hv, rfl⟩ := readMember_eq_ok_iff.1 hmember
  exact hread hv

end

/-! ## Order -/

theorem ordered_ofMembers {members : List (String × Json)} (h : ∀ member ∈ members, member.2.Ordered) :
    (ofMembers members).Ordered :=
  ordered_object_iff.2 ⟨Table.increasing_ofList members, fun member hmember ↦
    h member (Table.mem_ofList hmember)⟩

theorem finds_readValueWith {part? : Option (List Char → Attempt (Json × List Char))}
    (hpart : ∀ part ∈ part?, Finds Ordered part) : Finds Ordered (readValueWith part?) := by
  intro cs v rest h
  obtain ⟨c, more, -, hreads⟩ := readValueWith_eq_ok_iff.1 h
  cases hreads with
  | null | yes | no | negative | string | digits => simp [Ordered]
  | array hsome h =>
    exact ordered_array_iff.2 ((loops_items _).finds_readParts (hpart _ hsome) h)
  | object hsome h =>
    have hvalues := finds_readQuoted (hpart _ hsome)
    exact ordered_ofMembers ((loops_members _).finds_readParts hvalues h)

theorem finds_readValue (depth : Nat) : Finds Ordered (readValue depth) := by
  induction depth with
  | zero => exact finds_readValueWith (by simp)
  | succ depth ih =>
    refine finds_readValueWith fun part hpart ↦ ?_
    obtain rfl := Option.some.inj hpart
    exact ih

/-- A value that a text spells has its objects in order. -/
theorem ordered_of_readAll {cs : List Char} {v : Json} (h : readAll cs = .ok v) : v.Ordered := by
  obtain ⟨_, hread, -⟩ := expectEnd_eq_ok_iff.1 h
  exact finds_readValue nestingLimit hread

theorem ordered_of_parse {text : String} {v : Json} (h : parse text = .ok v) : v.Ordered :=
  ordered_of_readAll (mapError_eq_ok_iff.1 h)

end Json

/-! ## Yaml -/

namespace Yaml

open Json

theorem ordered_of_meaning {text : String} {meaning : Meaning} {v : Json}
    (h : meaning.toJson? text = some v) : v.Ordered := by
  cases meaning <;> simp only [Meaning.toJson?, Option.some.injEq, reduceCtorEq] at h <;>
  · subst h
    simp [Ordered]

theorem ordered_of_taggedValue {tag text : String} {v : Json} (h : taggedValue? tag text = some v) :
    v.Ordered := by
  unfold taggedValue? at h
  split_ifs at h
  · obtain ⟨b, -, rfl⟩ := Option.map_eq_some_iff.mp h
    simp [Ordered]
  · obtain ⟨meaning, -, hmeaning⟩ := Option.bind_eq_some_iff.mp h
    exact ordered_of_meaning hmeaning
  · obtain ⟨meaning, -, hmeaning⟩ := Option.bind_eq_some_iff.mp h
    exact ordered_of_meaning hmeaning
  · obtain rfl := Option.some.inj h
    simp [Ordered]
  · obtain rfl := Option.some.inj h
    simp [Ordered]

theorem ordered_of_scalarValue {tag? : Option String} {text : String} {style : ScalarStyle} {v : Json}
    (h : scalarValue? tag? text style = some v) : v.Ordered := by
  unfold scalarValue? at h
  split at h
  · exact ordered_of_taggedValue h
  · exact ordered_of_meaning h
  · obtain rfl := Option.some.inj h
    simp [Ordered]

section

variable {α β : Type} {left after : Nat}

theorem following_bind_eq_some_iff {x : Following α} {f : α → Following β} {b : β} :
    (x >>= f) left = some (b, after) ↔
      ∃ a mid, x left = some (a, mid) ∧ f a mid = some (b, after) := by
  change (x left).bind (fun p ↦ f p.1 p.2) = some (b, after) ↔ _
  simp [Option.bind_eq_some_iff]

theorem forall_mem_mapM {P : β → Prop} {part : α → Following β}
    (hpart : ∀ a left b after, part a left = some (b, after) → P b) {as : List α} {bs : List β}
    (h : as.mapM part left = some (bs, after)) : ∀ b ∈ bs, P b := by
  induction as generalizing left bs after with
  | nil =>
    obtain ⟨rfl, -⟩ := Prod.mk.inj (Option.some.inj h)
    simp
  | cons a as ih =>
    rw [List.mapM_cons] at h
    obtain ⟨b, mid, hb, h⟩ := following_bind_eq_some_iff.1 h
    obtain ⟨rest, last, hrest, h⟩ := following_bind_eq_some_iff.1 h
    obtain ⟨rfl, -⟩ := Prod.mk.inj (Option.some.inj h)
    exact List.forall_mem_cons.mpr ⟨hpart _ _ _ _ hb, ih hrest⟩

end

theorem ordered_of_valueWith {nodes : List Node} {part? : Option (Node → Following Json)}
    (hpart : ∀ part ∈ part?, ∀ node left v after, part node left = some (v, after) → v.Ordered)
    {node : Node} {left after : Nat} {v : Json}
    (h : valueWith nodes part? node left = some (v, after)) : v.Ordered := by
  obtain ⟨target, mid, -, h⟩ := following_bind_eq_some_iff.1 h
  split at h
  · obtain ⟨found, hfound, hv⟩ := Option.map_eq_some_iff.mp h
    obtain ⟨rfl, -⟩ := Prod.mk.inj hv
    exact ordered_of_scalarValue hfound
  · split_ifs at h
    · obtain ⟨items, last, hitems, h⟩ := following_bind_eq_some_iff.1 h
      obtain ⟨rfl, -⟩ := Prod.mk.inj (Option.some.inj h)
      exact ordered_array_iff.2 (forall_mem_mapM (hpart _ rfl) hitems)
  · split_ifs at h
    · obtain ⟨members, last, hmembers, h⟩ := following_bind_eq_some_iff.1 h
      obtain ⟨rfl, -⟩ := Prod.mk.inj (Option.some.inj h)
      refine ordered_ofMembers (forall_mem_mapM ?_ hmembers)
      rintro ⟨key, value⟩ left member after hmember
      obtain ⟨name, mid, -, hmember⟩ := following_bind_eq_some_iff.1 hmember
      obtain ⟨v, last, hv, hmember⟩ := following_bind_eq_some_iff.1 hmember
      obtain ⟨rfl, -⟩ := Prod.mk.inj (Option.some.inj hmember)
      exact hpart _ rfl _ _ _ _ hv
  · simp at h

theorem ordered_of_valueOf {nodes : List Node} {depth : Nat} {node : Node} {left after : Nat} {v : Json}
    (h : valueOf nodes depth node left = some (v, after)) : v.Ordered := by
  induction depth generalizing node left v after with
  | zero => exact ordered_of_valueWith (by simp) h
  | succ depth ih =>
    refine ordered_of_valueWith ?_ h
    rintro part hpart node left v after hv
    obtain rfl := Option.some.inj hpart
    exact ih hv

theorem ordered_of_parse {text : String} {v : Json} (h : parse? text = some v) : v.Ordered := by
  obtain ⟨document?, -, h⟩ := Option.bind_eq_some_iff.mp h
  cases document? with
  | none =>
    obtain rfl := Option.some.inj h
    simp [Ordered]
  | some document =>
    obtain ⟨⟨found, last⟩, hfound, hv⟩ := Option.map_eq_some_iff.mp h
    subst hv
    exact ordered_of_valueOf hfound

end Yaml

/-- Every document that a project can be made from has its objects in order. -/
theorem Project.ordered_of_loadDocument {path : Path} {disk : Disk} {document : Json}
    (h : loadDocument path disk = .ok document) : document.Ordered := by
  obtain ⟨text, -, h⟩ := bind_eq_ok_iff.1 h
  unfold parseDocument at h
  split at h
  · split at h
    · rename_i v hparse
      obtain rfl := Except.ok.inj h
      exact Yaml.ordered_of_parse hparse
    · simp at h
  · exact Json.ordered_of_parse (mapError_eq_ok_iff.1 h)

end WebScaffold
