import Mathlib.Tactic.Common
import WebScaffold.Proofs.Case
import WebScaffold.Proofs.DatabaseSchema

/-!
# The model that a page asks for

A page made by the server asks the database client for the model of its entity. The page takes the
name from the entity's in lower case, without an s at its end; the client takes it from the model's,
which is the entity's name as an identifier, with a small first letter. The two names are the same
exactly when the entity's name is a letter with small letters, digits and underscores behind it and
does not end in an s.
-/

namespace WebScaffold

open Text Artifact

/-! ## Names of one item -/

namespace Text

variable {cs : List Char} {c : Char}

theorem beforeSuffix?_concat (cs : List Char) (c : Char) :
    beforeSuffix? [c] (cs ++ [c]) = some cs := by
  have hreverse : (cs ++ [c]).reverse = [c].reverse ++ cs.reverse := by simp
  rw [beforeSuffix?, hreverse, afterPrefix?_append, Option.map_some, List.reverse_reverse]

theorem eq_concat_of_beforeSuffix? {stem : List Char} (h : beforeSuffix? [c] cs = some stem) :
    cs = stem ++ [c] := by
  obtain ⟨rest, hafter, rfl⟩ := Option.map_eq_some_iff.1 h
  have hreverse := eq_append_of_afterPrefix? hafter
  simpa using congrArg List.reverse hreverse

end Text

namespace Route

/-- The name of one item is the word itself, or the word without an s at its end. -/
theorem singularOf_eq_iff {word singular : String} :
    singularOf word = singular ↔
      word.toList = singular.toList ++ ['s'] ∨
        singular = word ∧ word.toList.getLast? ≠ some 's' := by
  unfold singularOf
  cases hstem : beforeSuffix? ['s'] word.toList with
  | some stem =>
    have hword : word.toList = stem ++ ['s'] := eq_concat_of_beforeSuffix? hstem
    dsimp only
    rw [hword]
    simp only [List.append_cancel_right_eq, List.getLast?_concat, ne_eq, not_true_eq_false,
      and_false, or_false]
    constructor
    · rintro rfl
      exact String.toList_ofList.symm
    · rintro rfl
      exact String.ofList_toList
  | none =>
    have hend (stem : List Char) : word.toList ≠ stem ++ ['s'] := by
      intro hword
      rw [hword, beforeSuffix?_concat] at hstem
      cases hstem
    have hlast : word.toList.getLast? ≠ some 's' := by
      intro hlast
      obtain ⟨stem, hword⟩ := List.getLast?_eq_some_iff.1 hlast
      exact hend stem hword
    simp [hend, hlast, eq_comm]

end Route

/-! ## Names at the database client -/

/-- The property of the database client for a model: its name with a small first letter. -/
def clientProperty (model : String) : String :=
  match model.toList with
  | [] => ""
  | c :: cs => String.ofList (c.toLower :: cs)

/-- A letter, and then small letters, digits and underscores, with no s at the end. -/
def IsPlainName (name : String) : Prop :=
  ∃ c cs, name.toList = c :: cs ∧ c.isAlpha ∧ (∀ d ∈ cs, isSmall d) ∧
    (c.toLower :: cs).getLast? ≠ some 's'

variable {name : String} {c : Char} {cs before : List Char}

/-- A character as it stands in an identifier. -/
def identifierPart (c : Char) : Char :=
  if isIdentifierPart c then c else '_'

theorem identifierPart_eq_toLower (h : identifierPart c = c.toLower) : isSmall c := by
  have htoNat := congrArg Char.toNat h
  rw [toNat_toLower] at htoNat
  rw [isSmall_iff]
  unfold identifierPart at htoNat
  split_ifs at htoNat with hpart
  · omega
  · have hrange := isIdentifierPart_iff.1 hpart
    omega
  · have hunderscore : '_'.toNat = 95 := rfl
    omega
  · exact .inr (.inr htoNat.symm)

theorem isIdentifierPart_of_isSmall (h : isSmall c) : isIdentifierPart c := by
  rw [isSmall_iff] at h
  rw [isIdentifierPart_iff]
  omega

theorem identifierPart_of_isSmall (h : isSmall c) : identifierPart c = c :=
  if_pos (isIdentifierPart_of_isSmall h)

theorem toNat_lt_of_isIdentifierPart (h : isIdentifierPart c) : c.toNat < 128 := by
  rw [isIdentifierPart_iff] at h
  omega

theorem isIdentifierPart_toLower : isIdentifierPart c.toLower ↔ isIdentifierPart c := by
  rw [isIdentifierPart_iff, isIdentifierPart_iff, toNat_toLower]
  split_ifs
  · omega
  · exact Iff.rfl

theorem identifierPart_of_not_ascii (hc : 128 ≤ c.toNat) : identifierPart c = '_' := by
  refine if_neg fun h ↦ ?_
  have hlt := toNat_lt_of_isIdentifierPart h
  omega

/-- Cleaning and lower case part ways at the first character that is not small. -/
theorem isSmall_of_prefix (h : cs.map identifierPart <+: lowerAfter before cs) :
    ∀ c ∈ cs, isSmall c := by
  induction cs generalizing before with
  | nil => simp
  | cons c cs ih =>
    rw [List.map_cons] at h
    by_cases hc : c.toNat < 128
    · rw [lowerAfter_cons_of_ascii hc, List.cons_prefix_cons] at h
      exact List.forall_mem_cons.2 ⟨identifierPart_eq_toLower h.1, ih h.2⟩
    · have hbeyond : 128 ≤ c.toNat := Nat.le_of_not_lt hc
      rw [identifierPart_of_not_ascii hbeyond] at h
      exact absurd h (not_prefix_lowerAfter_cons hbeyond (by decide) (by decide) (by decide) _)

/-- Where lower case leaves characters of identifiers only, nothing was blank. -/
theorem isBlank_of_lowerAfter (h : ∀ d ∈ lowerAfter before cs, isIdentifierPart d) :
    ∀ c ∈ cs, isBlank c = false := by
  induction cs generalizing before with
  | nil => simp
  | cons c cs ih =>
    by_cases hc : c.toNat < 128
    · rw [lowerAfter_cons_of_ascii hc, List.forall_mem_cons] at h
      refine List.forall_mem_cons.2 ⟨?_, ih h.2⟩
      exact isBlank_of_isIdentifierPart (isIdentifierPart_toLower.1 h.1)
    · obtain ⟨d, rest, hlower, hd⟩ := exists_lowerAfter_cons (Nat.le_of_not_lt hc) before cs
      rw [hlower, List.cons_append, List.forall_mem_cons, List.forall_mem_append] at h
      refine List.forall_mem_cons.2 ⟨?_, ih h.2.2⟩
      rcases hd with ⟨rfl, -⟩ | ⟨hkelvin, -⟩ | hd
      · decide
      · simp [isBlank, hkelvin]
      · have hlt := toNat_lt_of_isIdentifierPart h.1
        omega

theorem isIdentifierPart_of_isAlpha (h : c.isAlpha) : isIdentifierPart c := by
  simp [isIdentifierPart, Char.isAlphanum, h]

theorem isAlpha_identifierPart : (identifierPart c).isAlpha = c.isAlpha := by
  unfold identifierPart
  split_ifs with hc
  · rfl
  · cases halpha : c.isAlpha with
    | false => rfl
    | true => exact absurd (isIdentifierPart_of_isAlpha halpha) hc

/-- The property for the model of an entity whose name has no blanks. -/
theorem toList_clientProperty (hname : name.toList = c :: cs)
    (hblank : ∀ d ∈ name.toList, isBlank d = false) :
    (clientProperty (identifierOf name)).toList =
      if c.isAlpha then c.toLower :: cs.map identifierPart
      else 'x' :: identifierPart c :: cs.map identifierPart := by
  have hchars : identifierChars name.toList =
      if c.isAlpha then identifierPart c :: cs.map identifierPart
      else 'x' :: identifierPart c :: cs.map identifierPart := by
    have hhead : ((c :: cs).map identifierPart).head?.any Char.isAlpha = c.isAlpha := by
      rw [List.map_cons, List.head?_cons, Option.any_some, isAlpha_identifierPart]
    rw [identifierChars, trimChars_eq_self hblank, hname]
    change (if ((c :: cs).map identifierPart).head?.any Char.isAlpha then _ else _) = _
    rw [hhead]
    rfl
  unfold clientProperty identifierOf
  rw [String.toList_ofList, hchars]
  split_ifs with halpha
  · have hkept : identifierPart c = c := if_pos (isIdentifierPart_of_isAlpha halpha)
    dsimp only
    rw [String.toList_ofList, hkept]
  · dsimp only
    rw [String.toList_ofList]
    rfl

theorem isIdentifierPart_of_mem_clientProperty (name : String) :
    ∀ d ∈ (clientProperty (identifierOf name)).toList, isIdentifierPart d := by
  have hidentifier := isIdentifier_identifierChars name.toList
  unfold clientProperty identifierOf
  rw [String.toList_ofList]
  cases hchars : identifierChars name.toList with
  | nil => simp
  | cons c cs =>
    rw [hchars] at hidentifier
    obtain ⟨hc, hcs⟩ := List.forall_mem_cons.1 hidentifier.2
    dsimp only
    rw [String.toList_ofList, List.forall_mem_cons]
    exact ⟨isIdentifierPart_toLower.2 hc, hcs⟩

theorem toList_clientProperty_ne_nil (name : String) :
    (clientProperty (identifierOf name)).toList ≠ [] := by
  have hidentifier := isIdentifier_identifierChars name.toList
  unfold clientProperty identifierOf
  rw [String.toList_ofList]
  cases hchars : identifierChars name.toList with
  | nil => exact absurd hidentifier.1 (by simp [hchars])
  | cons c cs => simp

theorem toLower_ne_x (halpha : ¬c.isAlpha) : c.toLower ≠ 'x' := by
  intro hx
  have htoNat := congrArg Char.toNat hx
  have hx' : 'x'.toNat = 120 := rfl
  rw [toNat_toLower, hx'] at htoNat
  rw [isAlpha_iff] at halpha
  split_ifs at htoNat <;> omega

/-- Where the property begins the entity's name in lower case, the name is a letter with small
characters behind it. -/
theorem isAlpha_and_isSmall_of_prefix
    (hbegins : (clientProperty (identifierOf name)).toList <+: lowerAfter [] name.toList)
    (hblank : ∀ d ∈ name.toList, isBlank d = false) :
    ∃ c cs, name.toList = c :: cs ∧ c.isAlpha ∧ ∀ d ∈ cs, isSmall d := by
  cases hname : name.toList with
  | nil =>
    rw [hname] at hbegins
    exact absurd (List.prefix_nil.1 hbegins) (toList_clientProperty_ne_nil name)
  | cons c cs =>
    refine ⟨c, cs, rfl, ?_⟩
    rw [toList_clientProperty hname hblank, hname] at hbegins
    by_cases halpha : c.isAlpha
    · have hc := toNat_lt_of_isIdentifierPart (isIdentifierPart_of_isAlpha halpha)
      rw [if_pos halpha, lowerAfter_cons_of_ascii hc, List.cons_prefix_cons] at hbegins
      exact ⟨halpha, isSmall_of_prefix hbegins.2⟩
    · rw [if_neg halpha] at hbegins
      by_cases hc : c.toNat < 128
      · rw [lowerAfter_cons_of_ascii hc, List.cons_prefix_cons] at hbegins
        exact absurd hbegins.1.symm (toLower_ne_x halpha)
      · exact absurd hbegins (not_prefix_lowerAfter_cons (Nat.le_of_not_lt hc) (by decide)
          (by decide) (by decide) _)

/-- A letter with small characters behind it comes to the same on both ways. -/
theorem lower_eq_clientProperty (hname : name.toList = c :: cs) (halpha : c.isAlpha)
    (hsmall : ∀ d ∈ cs, isSmall d) :
    (lower name).toList = c.toLower :: cs ∧ clientProperty (identifierOf name) = lower name := by
  have hc : isIdentifierPart c := isIdentifierPart_of_isAlpha halpha
  have hparts : ∀ d ∈ name.toList, isIdentifierPart d := by
    rw [hname]
    exact List.forall_mem_cons.2 ⟨hc, fun d hd ↦ isIdentifierPart_of_isSmall (hsmall d hd)⟩
  have hlower : (lower name).toList = c.toLower :: cs := by
    rw [lower, String.toList_ofList, hname,
      lowerAfter_cons_of_ascii (toNat_lt_of_isIdentifierPart hc), lowerAfter_of_small hsmall]
  have hmap : cs.map identifierPart = cs := by
    rw [List.map_congr_left fun d hd ↦ identifierPart_of_isSmall (hsmall d hd), List.map_id']
  refine ⟨hlower, String.toList_inj.1 ?_⟩
  rw [toList_clientProperty hname fun d hd ↦ isBlank_of_isIdentifierPart (hparts d hd),
    if_pos halpha, hmap, hlower]

theorem singularOf_lower_eq_iff (name : String) :
    Route.singularOf (lower name) = clientProperty (identifierOf name) ↔ IsPlainName name := by
  have hlower : (lower name).toList = lowerAfter [] name.toList := String.toList_ofList
  rw [Route.singularOf_eq_iff]
  constructor
  · intro hsame
    have hbegins : (clientProperty (identifierOf name)).toList <+: lowerAfter [] name.toList := by
      rw [← hlower]
      rcases hsame with hplural | ⟨hsingular, -⟩
      · rw [hplural]
        exact List.prefix_append _ _
      · exact ⟨[], by rw [hsingular, List.append_nil]⟩
    have hparts : ∀ d ∈ lowerAfter [] name.toList, isIdentifierPart d := by
      have hproperty := isIdentifierPart_of_mem_clientProperty name
      rw [← hlower]
      rcases hsame with hplural | ⟨hsingular, -⟩
      · rw [hplural, List.forall_mem_append]
        exact ⟨hproperty, List.forall_mem_singleton.2 rfl⟩
      · rwa [← hsingular]
    obtain ⟨c, cs, hname, halpha, hsmall⟩ :=
      isAlpha_and_isSmall_of_prefix hbegins (isBlank_of_lowerAfter hparts)
    obtain ⟨hchars, hproperty⟩ := lower_eq_clientProperty hname halpha hsmall
    refine ⟨c, cs, hname, halpha, hsmall, ?_⟩
    rcases hsame with hplural | ⟨-, hlast⟩
    · -- the property is all of the name already
      rw [hproperty] at hplural
      exact absurd hplural (by simp)
    · rwa [← hchars]
  · rintro ⟨c, cs, hname, halpha, hsmall, hlast⟩
    obtain ⟨hchars, hproperty⟩ := lower_eq_clientProperty hname halpha hsmall
    right
    rw [hchars]
    exact ⟨hproperty, hlast⟩

/-! ## Pages -/

/-- A page that names an entity goes by the entity's name, whatever its path is. -/
theorem PageDescriptor.names_of_hint {page : PageDescriptor} {route : Route}
    (hroute : page.route? = some route) (hhint : page.entity? = some name) :
    route.collection = Route.pluralOf (lower name) ∧
      route.singular = Route.singularOf (lower name) := by
  obtain ⟨last, -, rfl⟩ := Option.map_eq_some_iff.1 hroute
  rw [hhint]
  dsimp only [Route.collectionOf]
  exact ⟨rfl, rfl⟩

namespace AppSpec

/-- A page of an entity asks for the model that the schema has for the entity exactly when the
entity's name is plain. -/
theorem page_asks_for_model_iff {spec : AppSpec} {page : PageDescriptor} {route : Route}
    {entity : Entity} (hroute : page.route? = some route) (hentity : entity ∈ spec.app.entities)
    (hhint : page.entity? = some entity.name) :
    entityModel entity ∈ schemaBlocks spec.app.entities ∧
      (route.singular = clientProperty (entityModel entity).name ↔ IsPlainName entity.name) := by
  constructor
  · exact List.mem_append_right _ (List.mem_map_of_mem hentity)
  · rw [(PageDescriptor.names_of_hint hroute hhint).2, name_entityModel, modelName]
    exact singularOf_lower_eq_iff entity.name

theorem bookshop_page_asks_for_model :
    let entity : Entity := ⟨"Book", []⟩
    let page : PageDescriptor :=
      .detailed { path := "/shelf/[id]", purpose := .detail, entity := some "Book" }
    let route : Route :=
      ⟨"/shelf/[id]", ["shelf", "[id]"], .detail, "books", "book", some ⟨"id", false⟩⟩
    let spec := bookshop .neon [.path "/", page] [entity]
    page.route? = some route ∧ entityModel entity ∈ schemaBlocks spec.app.entities ∧
      route.singular = clientProperty (entityModel entity).name := by
  intro entity page route spec
  have hroute : page.route? = some route := by decide
  have hhint : page.entity? = some entity.name := by decide
  have hplain : IsPlainName entity.name :=
    ⟨'B', ['o', 'o', 'k'], by decide, by decide, List.all_eq_true.1 (by decide), by decide⟩
  have hentity : entity ∈ spec.app.entities := List.mem_singleton_self entity
  obtain ⟨hmodel, hasks⟩ := page_asks_for_model_iff hroute hentity hhint
  exact ⟨hroute, hmodel, hasks.2 hplain⟩

/-- A capital letter inside the entity's name is enough for the page to ask for a model that the
client does not have. -/
theorem bookshop_page_misses_model :
    let page : PageDescriptor :=
      .detailed { path := "/listings", purpose := .list, entity := some "BookListing" }
    let entity : Entity := ⟨"BookListing", []⟩
    let spec := bookshop .neon [.path "/", page] [entity]
    validate spec.encode = .ok spec ∧ page.entity? = some entity.name ∧
      ∃ route, page.route? = some route ∧
        route.singular ≠ clientProperty (entityModel entity).name := by
  intro page entity spec
  refine ⟨by decide, by decide, ?_⟩
  have hroute : (page.route?.map Route.singular) = some "booklisting" := by decide
  obtain ⟨route, hroute, hsingular⟩ := Option.map_eq_some_iff.1 hroute
  refine ⟨route, hroute, ?_⟩
  rw [hsingular]
  decide

end AppSpec

end WebScaffold
