import Mathlib.Data.List.Nodup
import Mathlib.Tactic.Common

/-!
# Repeated names

A loop over a list can keep the names that it has seen and treat a thing by whether its name is
among them. What it does at a place then depends on the list in front of that place only: whether
the name was known before the loop began, or stands earlier in the list. It makes no difference
whether the loop keeps a name that it has seen once more.
-/

namespace WebScaffold

variable {α β : Type} {name : α → String} {as : List α} {place : Nat} {a : α}

/-- Whether something earlier in a list has the same name as what stands at a place. -/
def IsRepeated (name : α → String) (as : List α) (place : Nat) (a : α) : Prop :=
  ∃ earlier ∈ as.take place, name earlier = name a

instance : Decidable (IsRepeated name as place a) :=
  inferInstanceAs (Decidable (∃ earlier ∈ as.take place, name earlier = name a))

theorem isRepeated_append_cons_iff {front back : List α} :
    IsRepeated name (front ++ a :: back) front.length a ↔ name a ∈ front.map name := by
  rw [IsRepeated, List.take_left, List.mem_map]

theorem not_isRepeated_of_nodup (hnames : (as.map name).Nodup) (ha : as[place]? = some a) :
    ¬IsRepeated name as place a := by
  rintro ⟨earlier, hearlier, hsame⟩
  rw [← List.take_append_drop place as, List.map_append, List.nodup_append] at hnames
  have hlater : a ∈ as.drop place := by
    apply List.mem_of_getElem? (i := 0)
    rw [List.getElem?_drop, Nat.add_zero, ha]
  exact hnames.2.2 _ (List.mem_map_of_mem hearlier) _ (List.mem_map_of_mem hlater) hsame

/-- What a loop reports that keeps the names it has seen, from those in `known` on. -/
theorem loop_eq_flatMap (name : α → String) (report : Bool → Nat → α → List β)
    (loop : List String → Nat → List α → List β) (hnil : ∀ seen place, loop seen place [] = [])
    (hcons : ∀ seen place a as, ∃ seen', (∀ n, n ∈ seen' ↔ n = name a ∨ n ∈ seen) ∧
      loop seen place (a :: as) = report (name a ∈ seen) place a ++ loop seen' (place + 1) as)
    (known : List String) (as : List α) :
    loop known 0 as = as.zipIdx.flatMap fun (a, place) ↦
      report (name a ∈ known ∨ IsRepeated name as place a) place a := by
  -- after a front of the list, the names of the front were seen as well
  have hfrom (front back : List α) (seen : List String)
      (hseen : ∀ n, n ∈ seen ↔ n ∈ known ∨ n ∈ front.map name) :
      loop seen front.length back = (back.zipIdx front.length).flatMap fun (a, place) ↦
        report (name a ∈ known ∨ IsRepeated name (front ++ back) place a) place a := by
    induction back generalizing front seen with
    | nil => rw [hnil, List.zipIdx_nil, List.flatMap_nil]
    | cons a back ih =>
      obtain ⟨seen', hseen', hloop⟩ := hcons seen front.length a back
      have hfirst : decide (name a ∈ seen) =
          decide (name a ∈ known ∨ IsRepeated name (front ++ a :: back) front.length a) := by
        rw [decide_eq_decide, hseen, isRepeated_append_cons_iff]
      have hrest := ih (front ++ [a]) seen' fun n ↦ by
        rw [hseen', hseen, List.map_append, List.mem_append, List.map_singleton,
          List.mem_singleton, or_comm, or_assoc]
      rw [List.length_append, List.length_singleton, List.append_assoc, List.singleton_append]
        at hrest
      rw [hloop, hrest, hfirst, List.zipIdx_cons, List.flatMap_cons]
  exact hfrom [] as known fun n ↦ by simp

/-- The same for a loop that keeps a name only if it is new. -/
theorem loop_eq_flatMap_of_new (name : α → String) (report : Bool → α → List β)
    (loop : List String → List α → List β) (hnil : ∀ seen, loop seen [] = [])
    (hknown : ∀ seen a as, name a ∈ seen → loop seen (a :: as) = report true a ++ loop seen as)
    (hnew : ∀ seen a as, name a ∉ seen →
      loop seen (a :: as) = report false a ++ loop (name a :: seen) as)
    (known : List String) (as : List α) :
    loop known as = as.zipIdx.flatMap fun (a, place) ↦
      report (name a ∈ known ∨ IsRepeated name as place a) a := by
  apply loop_eq_flatMap name (fun isKnown _ a ↦ report isKnown a) (fun seen _ as ↦ loop seen as)
    (fun seen _ ↦ hnil seen)
  intro seen _ a as
  by_cases hseen : name a ∈ seen
  · refine ⟨seen, fun n ↦ (or_iff_right_of_imp ?_).symm, ?_⟩
    · rintro rfl
      exact hseen
    · rw [decide_eq_true hseen, hknown seen a as hseen]
  · refine ⟨name a :: seen, fun n ↦ List.mem_cons, ?_⟩
    rw [decide_eq_false hseen, hnew seen a as hseen]

end WebScaffold
