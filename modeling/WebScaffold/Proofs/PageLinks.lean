import Mathlib.Data.List.Destutter
import WebScaffold.Proofs.Routes
import WebScaffold.Proofs.SampleRows
import WebScaffold.Proofs.Spelling

/-!
# Links to pages

The file of a page stands at the names between the slashes of its path, and a link to the page is
the path as it was written. A slash too many is dropped for the file and kept for the link, so the
two lead to one place exactly when no two slashes stand together. At the front of a path the rules
accept two slashes as well, and there a browser takes what follows them for the name of a host.
-/

namespace WebScaffold

namespace Route

open Text

/-- The address of the file of a page: its names, each behind a slash. -/
def address (route : Route) : String :=
  "/" ++ "/".intercalate route.segments

/-- Two characters that are not both slashes. -/
def Spaced (a b : Char) : Prop :=
  ¬(a = '/' ∧ b = '/')

instance : DecidableRel Spaced := fun a b ↦
  inferInstanceAs (Decidable ¬(a = '/' ∧ b = '/'))

/-! ## Runs of slashes -/

section

variable {cs name : List Char} {a : Char}

theorem isChain_spaced_iff : cs.IsChain Spaced ↔ ¬['/', '/'] <:+: cs := by
  constructor
  · intro hchain hinfix
    simpa [Spaced] using hchain.infix hinfix
  · intro hinfix
    rw [List.isChain_iff_forall_rel_of_append_cons_cons]
    rintro a b front back rfl ⟨rfl, rfl⟩
    exact hinfix ⟨front, back, by simp⟩

theorem spaced_of_ne_right {b : Char} (h : b ≠ '/') : Spaced a b :=
  fun hslashes ↦ h hslashes.2

theorem isChain_spaced_cons (h : '/' ∉ cs) : (a :: cs).IsChain Spaced := by
  induction cs generalizing a with
  | nil => simp
  | cons c cs ih =>
    obtain ⟨hc, hcs⟩ := List.ne_and_not_mem_of_not_mem_cons h
    exact List.isChain_cons_cons.2 ⟨spaced_of_ne_right hc.symm, ih hcs⟩

theorem segmentsOf_append_slash (front back : List Char) :
    segmentsOf (front ++ '/' :: back) = segmentsOf front ++ segmentsOf back := by
  rw [segmentsOf, pieces_append_cons (by decide), List.filter_append]
  rfl

theorem segmentsOf_of_name (hname : '/' ∉ name) (hne : name ≠ []) : segmentsOf name = [name] := by
  have hpieces : pieces (· == '/') name = [name] :=
    pieces_of_forall_not fun c hc ↦ beq_eq_false_iff_ne.2 fun heq ↦ hname (heq ▸ hc)
  simp [segmentsOf, hpieces, hne]

theorem segmentsOf_slashes (h : ∀ c ∈ cs, c = '/') : segmentsOf cs = [] := by
  induction cs with
  | nil => rfl
  | cons c cs ih =>
    obtain ⟨rfl, hcs⟩ := List.forall_mem_cons.1 h
    have hsplit := segmentsOf_append_slash [] cs
    rw [List.nil_append, ih hcs] at hsplit
    exact hsplit

/-- A name is passed over unchanged, and the slash behind it is kept. -/
theorem destutter'_name (hname : '/' ∉ name) (ha : a ≠ '/' ∨ name ≠ []) (behind : List Char) :
    (name ++ '/' :: behind).destutter' Spaced a = a :: name ++ behind.destutter' Spaced '/' := by
  induction name generalizing a with
  | nil =>
    have hslash : a ≠ '/' := ha.resolve_right (by simp)
    exact List.destutter'_cons_pos _ fun hslashes ↦ hslash hslashes.1
  | cons c name ih =>
    obtain ⟨hc, hname⟩ := List.ne_and_not_mem_of_not_mem_cons hname
    rw [List.cons_append, List.destutter'_cons_pos _ (spaced_of_ne_right hc.symm),
      ih hname (.inl hc.symm)]
    rfl

/-- Behind a slash, a text that does not end with one comes to its names, each behind a slash. -/
theorem destutter'_eq_segments (hne : cs ≠ []) (hlast : ∀ c ∈ cs.getLast?, c ≠ '/') :
    cs.destutter' Spaced '/' = (segmentsOf cs).flatMap ('/' :: ·) := by
  induction hlength : cs.length using Nat.strong_induction_on generalizing cs with
  | _ length ih =>
    by_cases hslash : '/' ∈ cs
    · obtain ⟨name, behind, rfl, hname⟩ := List.eq_append_cons_of_mem hslash
      have hbehind : behind ≠ [] := by
        rintro rfl
        exact hlast '/' (by simp) rfl
      have hshorter : behind.length < length := by
        simp only [← hlength, List.length_append, List.length_cons]
        omega
      have hend : ∀ c ∈ behind.getLast?, c ≠ '/' := by
        intro c hc
        apply hlast
        rw [List.getLast?_append_of_ne_nil _ (by simp), List.getLast?_cons, hc]
        rfl
      have hrest := ih behind.length hshorter hbehind hend rfl
      rw [segmentsOf_append_slash, List.flatMap_append, ← hrest]
      by_cases hempty : name = []
      · subst hempty
        exact List.destutter'_cons_neg _ fun hspaced ↦ hspaced ⟨rfl, rfl⟩
      · rw [destutter'_name hname (.inr hempty), segmentsOf_of_name hname hempty]
        simp
    · rw [segmentsOf_of_name hslash hne,
        List.destutter'_of_isChain_cons _ _ (isChain_spaced_cons hslash)]
      simp

end

/-! ## Links -/

section

variable {page : PageDescriptor} {route : Route}

theorem toList_slash_intercalate {names : List String} (h : names ≠ []) :
    ("/" ++ "/".intercalate names).toList = (names.map String.toList).flatMap ('/' :: ·) := by
  induction names with
  | nil => exact absurd rfl h
  | cons name names ih =>
    cases names with
    | nil => simp
    | cons next names =>
      have hrest := ih (List.cons_ne_nil next names)
      rw [String.intercalate_cons_cons, List.map_cons, List.flatMap_cons, ← hrest]
      simp

theorem toList_segments (hroute : page.route? = some route) :
    route.segments.map String.toList = segmentsOf route.path.toList := by
  obtain ⟨last, hlast, rfl⟩ := Option.map_eq_some_iff.1 hroute
  simp [Function.comp_def]

theorem path_of_route? (hroute : page.route? = some route) : route.path = page.pagePath := by
  obtain ⟨last, hlast, rfl⟩ := Option.map_eq_some_iff.1 hroute
  rfl

theorem segments_ne_nil (hroute : page.route? = some route) : route.segments ≠ [] := by
  rw [(route?_eq_some hroute).1]
  intro hempty
  rw [route?_eq_none_iff.2 hempty] at hroute
  cases hroute

theorem head?_of_pathProblem? {path : String} (h : pathProblem? path = none) :
    path.toList.head? = some '/' := by
  unfold pathProblem? at h
  dsimp only at h
  split_ifs at h with hhead
  exact not_not.1 hhead

/-- A path that the rules accept begins with a slash, and only slashes are missing at the end of the
link. -/
theorem exists_linkBase (hproblem : pathProblem? page.pagePath = none)
    (hroute : page.route? = some route) :
    ∃ names slashes, route.linkBase.toList = '/' :: names ∧ names ≠ [] ∧
      (∀ c ∈ names.getLast?, c ≠ '/') ∧ (∀ c ∈ slashes, c = '/') ∧
      route.path.toList = '/' :: names ++ slashes := by
  have hhead := head?_of_pathProblem? hproblem
  rw [← path_of_route? hroute] at hhead
  obtain ⟨rest, hpath⟩ := List.head?_eq_some_iff.1 hhead
  let names := rest.rdropWhile (· == '/')
  let slashes := rest.rtakeWhile (· == '/')
  have hsplit : names ++ slashes = rest := List.rdropWhile_append_rtakeWhile
  have hslashes : ∀ c ∈ slashes, c = '/' := fun c hc ↦ by simpa using List.mem_rtakeWhile_imp hc
  have hnames : names ≠ [] := by
    intro hempty
    have hall := List.rdropWhile_eq_nil_iff.1 hempty
    have hnone : segmentsOf route.path.toList = [] := by
      rw [hpath]
      exact segmentsOf_slashes (List.forall_mem_cons.2 ⟨rfl, fun c hc ↦ by simpa using hall c hc⟩)
    rw [← toList_segments hroute, List.map_eq_nil_iff] at hnone
    exact segments_ne_nil hroute hnone
  have hlast : ∀ c ∈ names.getLast?, c ≠ '/' := by
    intro c hc
    rw [List.getLast?_eq_some_getLast hnames] at hc
    obtain rfl := Option.some.inj hc
    simpa using List.rdropWhile_last_not (· == '/') rest hnames
  refine ⟨names, slashes, ?_, hnames, hlast, hslashes, by rw [hpath, ← hsplit, List.cons_append]⟩
  have hlink : dropTailWhile (· == '/') ('/' :: names) = '/' :: names := by
    refine List.rdropWhile_eq_self_iff.2 fun hne ↦ ?_
    rw [List.getLast_cons hnames]
    simpa using List.rdropWhile_last_not (· == '/') rest hnames
  rw [linkBase, String.toList_ofList, hpath, ← hsplit, ← List.cons_append,
    dropTailWhile_append (fun c hc ↦ by simp [hslashes c hc]), hlink]

/-- The address is the link with each run of slashes taken for one. -/
theorem toList_address (hproblem : pathProblem? page.pagePath = none)
    (hroute : page.route? = some route) :
    route.address.toList = route.linkBase.toList.destutter Spaced := by
  obtain ⟨names, slashes, hlink, hnames, hlast, hslashes, hpath⟩ := exists_linkBase hproblem hroute
  have hsegments : segmentsOf route.path.toList = segmentsOf names := by
    have hfront := segmentsOf_append_slash [] (names ++ slashes)
    rw [hpath, List.cons_append]
    refine hfront.trans ?_
    cases hempty : slashes with
    | nil => simp [segmentsOf, pieces]
    | cons c behind =>
      obtain ⟨rfl, hbehind⟩ := List.forall_mem_cons.1 (hempty ▸ hslashes)
      rw [segmentsOf_append_slash, segmentsOf_slashes hbehind, List.append_nil]
      rfl
  rw [address, toList_slash_intercalate (segments_ne_nil hroute), toList_segments hroute, hsegments,
    hlink, List.destutter_cons', destutter'_eq_segments hnames hlast]

theorem lookup_pageTokens_base (tokens : Table String) (route : Route) :
    (tokens.insertAll (Artifact.pageTokens route)).lookup "__BASE__" = some route.linkBase := by
  rw [Table.lookup_insertAll]
  unfold Artifact.pageTokens
  cases route.param <;> rfl

theorem lookup_primaryHref (spec : AppSpec) :
    spec.commonTokens.lookup Plan.Token.primaryHref = some spec.callToAction.1 := by
  apply @Table.lookup_ofList_append_cons _ [_, _]
  have hlabel : Plan.Token.primaryLabel ≠ Plan.Token.primaryHref := by decide
  have hfeatures : Plan.Token.primaryHref ∉ Plan.Token.features := by decide
  rintro entry hentry hkey
  rcases List.mem_cons.1 hentry with rfl | hentry
  · exact hlabel hkey
  · exact hfeatures (hkey ▸ (List.of_mem_zip hentry).1)

/-- A link to a page leads to the file of the page exactly when no two slashes stand together in it.
In any case its address is the link with each run of slashes taken for one. The rows of a list put
the link in front of their ids, and the landing page links to the first list as its path was
written, with the slashes at the end. -/
theorem linkBase_eq_address_iff (hproblem : pathProblem? page.pagePath = none)
    (hroute : page.route? = some route) :
    (∀ tokens : Table String,
      (tokens.insertAll (Artifact.pageTokens route)).lookup "__BASE__" = some route.linkBase) ∧
    (∀ spec : AppSpec, spec.routes.find? (·.kind == .list) = some route →
      ∃ slashes : List Char, (∀ c ∈ slashes, c = '/') ∧
        spec.commonTokens.lookup Plan.Token.primaryHref =
          some (route.linkBase ++ String.ofList slashes)) ∧
    route.modulePath = "src/app" ++ route.address ++ "/page.tsx" ∧
    route.address.toList = route.linkBase.toList.destutter Spaced ∧
    (route.linkBase = route.address ↔ ¬['/', '/'] <:+: route.linkBase.toList) := by
  have haddress := toList_address hproblem hroute
  refine ⟨fun tokens ↦ lookup_pageTokens_base tokens route, ?_, ?_, haddress, ?_⟩
  · intro spec hfirst
    obtain ⟨names, slashes, hlink, -, -, hslashes, hpath⟩ := exists_linkBase hproblem hroute
    refine ⟨slashes, hslashes, ?_⟩
    have hwhole : route.path = route.linkBase ++ String.ofList slashes := by
      apply String.toList_inj.1
      rw [hpath, String.toList_append, hlink, String.toList_ofList]
    rw [lookup_primaryHref, AppSpec.callToAction, hfirst, ← hwhole]
  · rw [modulePath, address, ← String.append_assoc]
    rfl
  · rw [← String.toList_inj, haddress, eq_comm, List.destutter_eq_self_iff, isChain_spaced_iff]

end

/-- A list whose path was written with slashes that lead nowhere. -/
def shopRoute : Route :=
  ⟨"/shop//new/", ["shop", "new"], .list, "shop", "shop", none⟩

theorem shopRoute_linkBase_ne :
    pathProblem? "/shop//new/" = none ∧
      (PageDescriptor.path "/shop//new/").route? = some shopRoute ∧
      shopRoute.modulePath = "src/app" ++ shopRoute.address ++ "/page.tsx" ∧
      (∃ slashes : List Char, (∀ c ∈ slashes, c = '/') ∧
        (AppSpec.cookbook [.path "/shop//new/"]).commonTokens.lookup "__PRIMARY_HREF__" =
          some (shopRoute.linkBase ++ String.ofList slashes)) ∧
      shopRoute.linkBase ≠ shopRoute.address := by
  have hproblem : pathProblem? (PageDescriptor.path "/shop//new/").pagePath = none := by
    decide +kernel
  have hroute : (PageDescriptor.path "/shop//new/").route? = some shopRoute := by decide +kernel
  obtain ⟨-, hhref, hmodule, -, hsame⟩ := linkBase_eq_address_iff hproblem hroute
  exact ⟨hproblem, hroute, hmodule,
    hhref (AppSpec.cookbook [.path "/shop//new/"]) (by decide +kernel),
    fun heq ↦ hsame.1 heq (by decide +kernel)⟩

/-- A list whose path begins with two slashes. -/
def hostRoute : Route :=
  ⟨"//books", ["books"], .list, "books", "book", none⟩

/-- The rules accept a path with two slashes in front. Its page is the one at `/books`, and the link
to it names a host. -/
theorem hostRoute_linkBase_ne :
    pathProblem? "//books" = none ∧ (PageDescriptor.path "//books").route? = some hostRoute ∧
      hostRoute.modulePath = "src/app/books/page.tsx" ∧ hostRoute.linkBase = "//books" ∧
      hostRoute.linkBase ≠ "/" ++ "/".intercalate hostRoute.segments := by
  decide +kernel

end Route

end WebScaffold
