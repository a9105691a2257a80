import Mathlib.Tactic.Common
import WebScaffold.File.Path

/-!
# Paths that are put together

A text that is put together with slashes is cut at them again: the steps of two paths with a slash
between them are those of both, and names without slashes are found again in the path that joins
them. A path of proper names is told by its components, and it leads inward from wherever it is
joined on.
-/

namespace WebScaffold

namespace Text

variable {p : Char → Bool} {cs : List Char}

theorem pieces_cons_of_sep {c : Char} (h : p c = true) (cs : List Char) :
    pieces p (c :: cs) = [] :: pieces p cs := by
  rw [pieces, if_pos h]

theorem pieces_cons_of_not_sep {c : Char} {piece : List Char} {rest : List (List Char)}
    (h : p c = false) (hrest : pieces p cs = piece :: rest) :
    pieces p (c :: cs) = (c :: piece) :: rest := by
  rw [pieces, if_neg (by simp [h]), hrest]

theorem exists_pieces_eq_cons (p : Char → Bool) (cs : List Char) :
    ∃ piece rest, pieces p cs = piece :: rest :=
  List.exists_cons_of_ne_nil (pieces_ne_nil p cs)

theorem pieces_append_cons {c : Char} (h : p c = true) (front back : List Char) :
    pieces p (front ++ c :: back) = pieces p front ++ pieces p back := by
  induction front with
  | nil => rw [List.nil_append, pieces_cons_of_sep h, pieces, List.singleton_append]
  | cons first front ih =>
    rw [List.cons_append]
    cases hfirst : p first with
    | true => rw [pieces_cons_of_sep hfirst, pieces_cons_of_sep hfirst, ih, List.cons_append]
    | false =>
      obtain ⟨piece, rest, hpieces⟩ := exists_pieces_eq_cons p front
      rw [hpieces, List.cons_append] at ih
      rw [pieces_cons_of_not_sep hfirst ih, pieces_cons_of_not_sep hfirst hpieces, List.cons_append]

theorem pieces_of_forall_not (h : ∀ c ∈ cs, p c = false) : pieces p cs = [cs] := by
  induction cs with
  | nil => rfl
  | cons c cs ih =>
    have hrest := ih fun c' hc' ↦ h c' (List.mem_cons_of_mem _ hc')
    exact pieces_cons_of_not_sep (h c List.mem_cons_self) hrest

theorem not_of_mem_pieces {piece : List Char} (hpiece : piece ∈ pieces p cs) :
    ∀ c ∈ piece, p c = false := by
  induction cs generalizing piece with
  | nil =>
    obtain rfl : piece = [] := by simpa [pieces] using hpiece
    simp
  | cons first cs ih =>
    cases hfirst : p first with
    | true =>
      rw [pieces_cons_of_sep hfirst] at hpiece
      rcases List.mem_cons.1 hpiece with rfl | hpiece
      · simp
      · exact ih hpiece
    | false =>
      obtain ⟨head, rest, hpieces⟩ := exists_pieces_eq_cons p cs
      rw [hpieces] at ih
      rw [pieces_cons_of_not_sep hfirst hpieces] at hpiece
      rcases List.mem_cons.1 hpiece with rfl | hpiece
      · intro c hc
        rcases List.mem_cons.1 hc with rfl | hc
        · exact hfirst
        · exact ih List.mem_cons_self c hc
      · exact ih (List.mem_cons_of_mem _ hpiece)

end Text

namespace Path

variable {path : Path} {name inner : String} {names : List String}

theorem isPlain_iff : isPlain name ↔ name ≠ stay ∧ name ≠ up := by
  simp [isPlain]

/-- A text that is a single step. -/
def IsStep (name : String) : Prop :=
  name ≠ "" ∧ '/' ∉ name.toList

instance (name : String) : Decidable (IsStep name) :=
  inferInstanceAs (Decidable (name ≠ "" ∧ '/' ∉ name.toList))

theorem isName_iff : isName name ↔ IsStep name ∧ isPlain name := by
  simp [isName, IsStep, and_assoc]

theorem steps_append_slash (front back : String) :
    steps ⟨front ++ "/" ++ back⟩ = steps ⟨front⟩ ++ steps ⟨back⟩ := by
  have htext : (front ++ "/" ++ back).toList = front.toList ++ '/' :: back.toList := by
    simp
  rw [steps, htext, Text.pieces_append_cons (by decide), List.filter_append, List.map_append]
  rfl

theorem steps_of_isStep (h : IsStep name) : steps ⟨name⟩ = [name] := by
  have hpieces : Text.pieces (· == '/') name.toList = [name.toList] := by
    refine Text.pieces_of_forall_not fun c hc ↦ beq_eq_false_iff_ne.2 ?_
    rintro rfl
    exact h.2 hc
  have hne : name.toList ≠ [] := by simpa using h.1
  simp [steps, hpieces, hne]

theorem isStep_of_mem_steps (h : name ∈ path.steps) : IsStep name := by
  obtain ⟨piece, hpiece, rfl⟩ := List.mem_map.1 h
  obtain ⟨hmem, hne⟩ := List.mem_filter.1 hpiece
  constructor
  · simpa using hne
  · intro hslash
    have := Text.not_of_mem_pieces hmem '/' (by simpa using hslash)
    simp at this

theorem steps_intercalate (h : ∀ name ∈ names, IsStep name) :
    steps ⟨"/".intercalate names⟩ = names := by
  induction names with
  | nil => rfl
  | cons name rest ih =>
    have hname : IsStep name := h name List.mem_cons_self
    have hrest := ih fun other hother ↦ h other (List.mem_cons_of_mem _ hother)
    cases rest with
    | nil => rw [String.intercalate_singleton, steps_of_isStep hname]
    | cons next rest =>
      rw [String.intercalate_cons_cons, steps_append_slash, steps_of_isStep hname, hrest]
      rfl

theorem filter_ne_stay (h : stay ∉ names) : names.filter (· ≠ stay) = names := by
  refine List.filter_eq_self.2 fun name hname ↦ decide_eq_true ?_
  rintro rfl
  exact h hname

theorem components_eq_steps (h : stay ∉ path.steps) : path.components = path.steps := by
  unfold components
  split
  · next hsteps => rw [hsteps]
  · next first rest hsteps =>
    rw [hsteps] at h ⊢
    have hfirst : first ≠ stay := fun heq ↦ h (heq ▸ List.mem_cons_self)
    have hrest : stay ∉ rest := fun hmem ↦ h (List.mem_cons_of_mem _ hmem)
    simp only [filter_ne_stay hrest, hfirst, false_and, if_false]

/-! ## Paths within paths -/

theorem exists_of_endsInSlash (h : path.endsInSlash) : ∃ front, path = ⟨front ++ "/"⟩ := by
  obtain ⟨front, hfront⟩ := List.getLast?_eq_some_iff.1 (beq_iff_eq.1 h)
  refine ⟨String.ofList front, ?_⟩
  have htext : path.text = String.ofList front ++ "/" := by
    apply String.toList_inj.1
    simp [hfront]
  rw [← htext]

theorem isAbsolute_append (h : path.text ≠ "") (back : String) :
    isAbsolute ⟨path.text ++ back⟩ = path.isAbsolute := by
  obtain ⟨c, cs, hcs⟩ := List.exists_cons_of_ne_nil (l := path.text.toList) (by simpa using h)
  simp [isAbsolute, hcs]

theorem isAbsolute_join (h : isAbsolute ⟨inner⟩ = false) (path : Path) :
    (path.join inner).isAbsolute = path.isAbsolute := by
  unfold join
  split_ifs with hinner hslash
  · obtain hempty : path.text = "" := by simpa [h] using hinner
    rw [h, isAbsolute, hempty]
    rfl
  · exact isAbsolute_append (fun hempty ↦ hinner (.inr hempty)) inner
  · rw [String.append_assoc]
    exact isAbsolute_append (fun hempty ↦ hinner (.inr hempty)) _

theorem join_empty (path : Path) : path.join "" = ⟨""⟩ ∨ (path.join "").endsInSlash := by
  unfold join
  split_ifs with hempty hslash
  · exact .inl rfl
  · right
    simpa using hslash
  · right
    simp [endsInSlash]

/-- A relative path goes on from where the first one leads. -/
theorem steps_join (h : isAbsolute ⟨inner⟩ = false) (path : Path) :
    (path.join inner).steps = path.steps ++ steps ⟨inner⟩ := by
  unfold join
  split_ifs with hinner hslash
  · obtain hempty : path.text = "" := by simpa [h] using hinner
    obtain rfl : path = ⟨""⟩ := by rw [← hempty]
    rfl
  · obtain ⟨front, rfl⟩ := exists_of_endsInSlash hslash
    have hfront : steps ⟨front ++ "/"⟩ = steps ⟨front⟩ := by
      simpa [steps, Text.pieces] using steps_append_slash front ""
    rw [hfront, steps_append_slash]
  · exact steps_append_slash path.text inner

/-! ## Paths that lead inward -/

theorem leadsInward_iff : path.leadsInward ↔
    path.isAbsolute = false ∧ ∀ name ∈ path.components, isPlain name := by
  simp [leadsInward]

/-- Apart from an absolute path it is enough to look at the components. -/
theorem not_leadsInward_iff : path.leadsInward = false ↔
    path.isAbsolute ∨ ∃ name ∈ path.components, name = stay ∨ name = up := by
  rw [← Bool.not_eq_true, leadsInward_iff]
  simp only [isPlain_iff]
  grind

theorem components_of_leadsInward (h : path.leadsInward) :
    path.components = path.steps.filter (· ≠ stay) := by
  obtain ⟨habsolute, hplain⟩ := leadsInward_iff.1 h
  unfold components at hplain ⊢
  split
  · next hsteps => rw [hsteps]; rfl
  · next first rest hsteps =>
    rw [hsteps] at hplain ⊢
    simp only [habsolute, Bool.false_eq_true, and_false, if_false] at hplain ⊢
    have hfirst := (isPlain_iff.1 (hplain first List.mem_cons_self)).1
    exact (List.filter_cons_of_pos (by simpa using hfirst)).symm

/-- The components are the steps that do not stay, at most with one in front that does. -/
theorem exists_components_eq (path : Path) : ∃ front, (∀ name ∈ front, name = stay) ∧
    path.components = front ++ path.steps.filter (· ≠ stay) := by
  unfold components
  split
  · next hsteps => exact ⟨[], by simp, by rw [hsteps]; rfl⟩
  · next first rest hsteps =>
    rw [hsteps]
    by_cases hfirst : first = stay
    · split_ifs
      · exact ⟨[], by simp, by simp [hfirst]⟩
      · exact ⟨[stay], by simp, by simp [hfirst]⟩
    · exact ⟨[], by simp, by simp [hfirst]⟩

theorem isStep_of_mem_components (h : name ∈ path.components) : IsStep name := by
  have hsteps : name ∈ path.steps := by
    unfold components at h
    split at h
    · cases h
    · next first rest hsteps => grind
  exact isStep_of_mem_steps hsteps

/-- A path that leads nowhere is empty. -/
theorem components_ne_nil (h : path.isAbsolute = false) (hne : path.text ≠ "") :
    path.components ≠ [] := by
  have hsteps : path.steps ≠ [] := by
    obtain ⟨c, cs, hcs⟩ := List.exists_cons_of_ne_nil (l := path.text.toList) (by simpa using hne)
    have hc : (c == '/') = false := by
      rw [isAbsolute, hcs] at h
      simpa using h
    obtain ⟨piece, rest, hpieces⟩ := Text.exists_pieces_eq_cons (· == '/') cs
    rw [steps, hcs, Text.pieces_cons_of_not_sep (p := (· == '/')) hc hpieces]
    simp
  unfold components
  split
  · next hnil => exact absurd hnil hsteps
  · next first rest _ => simp [h]

/-! ## Paths of directories -/

theorem text_ofComponents_ne_empty (components : List String) :
    (ofComponents true components).text ≠ "" := by
  simp [ofComponents]

theorem exists_components_concat {front : List String} (hsteps : path.steps = front ++ [name])
    (hname : name ≠ stay) : ∃ inside, path.components = inside ++ [name] := by
  have hlast : [name].filter (· ≠ stay) = [name] := by simp [hname]
  unfold components
  rw [hsteps]
  cases front with
  | nil => exact ⟨[], by simp [hname]⟩
  | cons first front =>
    simp only [List.cons_append, List.filter_append, hlast]
    split_ifs
    · exact ⟨_, rfl⟩
    · exact ⟨first :: front.filter (· ≠ stay), rfl⟩

/-- Names that are the components of a path: steps that stay are left out, except for one in front of
a relative path. -/
structure AreComponents (absolute : Bool) (names : List String) : Prop where
  isStep : ∀ name ∈ names, IsStep name
  tail : stay ∉ names.tail
  head : absolute → names.head? ≠ some stay

theorem areComponents_components (path : Path) : AreComponents path.isAbsolute path.components := by
  refine ⟨fun name ↦ isStep_of_mem_components, ?_, fun habsolute ↦ ?_⟩ <;> unfold components <;>
    split
  · simp
  · next first rest _ =>
    split_ifs
    · exact fun hmem ↦ by simpa using List.mem_of_mem_tail hmem
    · simp
  · simp
  · next first rest _ =>
    split_ifs with hfirst
    · intro hhead
      simpa using List.mem_of_mem_head? hhead
    · simpa [habsolute] using hfirst

theorem AreComponents.of_front {absolute : Bool} {front : List String}
    (h : AreComponents absolute names) (hfront : front <+: names) : AreComponents absolute front := by
  obtain ⟨back, rfl⟩ := hfront
  cases front with
  | nil => exact ⟨by simp, by simp, by simp⟩
  | cons first front =>
    refine ⟨fun name hname ↦ h.isStep name (List.mem_append_left _ hname), fun hmem ↦ ?_, h.head⟩
    exact h.tail (List.mem_append_left _ hmem)

theorem AreComponents.isAbsolute {absolute : Bool} (h : AreComponents absolute names) :
    (ofComponents absolute names).isAbsolute = absolute := by
  cases absolute with
  | true => simp [ofComponents, Path.isAbsolute]
  | false =>
    cases names with
    | nil => rfl
    | cons first rest =>
      obtain ⟨hne, hslash⟩ := h.isStep first List.mem_cons_self
      obtain ⟨c, cs, hcs⟩ := List.exists_cons_of_ne_nil (l := first.toList) (by simpa using hne)
      have hc : c ≠ '/' := by
        rintro rfl
        exact hslash (hcs ▸ List.mem_cons_self)
      have htext : ∃ back, "/".intercalate (first :: rest) = first ++ back := by
        cases rest with
        | nil => exact ⟨"", by simp⟩
        | cons next rest => exact ⟨_, by rw [String.intercalate_cons_cons, String.append_assoc]⟩
      obtain ⟨back, hback⟩ := htext
      simp [ofComponents, Path.isAbsolute, hback, hcs, hc]

theorem AreComponents.steps {absolute : Bool} (h : AreComponents absolute names) :
    (ofComponents absolute names).steps = names := by
  cases absolute with
  | false => simpa [ofComponents] using steps_intercalate h.isStep
  | true =>
    have hroot : Path.steps ⟨"" ++ "/" ++ "/".intercalate names⟩ = names := by
      rw [steps_append_slash, steps_intercalate h.isStep]
      rfl
    simpa [ofComponents] using hroot

theorem AreComponents.components {absolute : Bool} (h : AreComponents absolute names) :
    (ofComponents absolute names).components = names := by
  unfold Path.components
  rw [h.steps, h.isAbsolute]
  cases names with
  | nil => rfl
  | cons first rest =>
    have hfirst : ¬(first = stay ∧ absolute) := fun hstay ↦ h.head hstay.2 (congrArg some hstay.1)
    have hrest : stay ∉ rest := h.tail
    simp only [filter_ne_stay hrest, if_neg hfirst]

theorem parent?_of_components_eq_nil (h : path.components = []) : path.parent? = none := by
  rw [parent?, h]

theorem parent?_of_components_ne_nil (h : path.components ≠ []) :
    path.parent? = some (ofComponents path.isAbsolute path.components.dropLast) := by
  unfold parent?
  split
  · next hnil => exact absurd hnil h
  · rfl

/-- Only a relative path has nothing in front of its name. -/
theorem parent_of_text_eq_empty (h : (path.parent?.getD ⟨stay⟩).text = "") :
    path.isAbsolute = false ∧ path.parent?.getD ⟨stay⟩ = ⟨""⟩ := by
  refine ⟨?_, by rw [← h]⟩
  unfold parent? at h
  split at h
  · exact absurd h (by decide)
  · cases habsolute : path.isAbsolute with
    | false => rfl
    | true =>
      rw [habsolute] at h
      exact absurd h (text_ofComponents_ne_empty _)

end Path

end WebScaffold
