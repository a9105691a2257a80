import Mathlib.Data.List.DropRight
import Mathlib.Tactic.Common
import WebScaffold.Text.Blank

/-!
# Trimmed texts

Trimming takes away the blanks at both ends and nothing else: what is left begins and ends in other
characters, so it is left alone when it is trimmed again. Nothing is left exactly when the text
holds blanks only.
-/

namespace WebScaffold.Text

variable {p : Char → Bool} {before cs after : List Char}

theorem dropTailWhile_append (hafter : ∀ c ∈ after, p c) (cs : List Char) :
    dropTailWhile p (cs ++ after) = dropTailWhile p cs := by
  have hreverse : ∀ c ∈ after.reverse, p c := fun c hc ↦ hafter c (List.mem_reverse.mp hc)
  unfold dropTailWhile
  rw [List.reverse_append, List.dropWhile_append_of_pos hreverse]

/-- Blanks around a text do not show once it is trimmed. -/
theorem trimChars_append (hbefore : ∀ c ∈ before, isBlank c) (hafter : ∀ c ∈ after, isBlank c)
    (cs : List Char) : trimChars (before ++ (cs ++ after)) = trimChars cs := by
  unfold trimChars
  rw [List.dropWhile_append_of_pos hbefore, List.dropWhile_append]
  split_ifs with hempty
  · have hnil : after.dropWhile isBlank = [] := List.dropWhile_eq_nil_iff.mpr hafter
    rw [hnil, List.isEmpty_iff.mp hempty]
  · exact dropTailWhile_append hafter _

/-- No more is taken away than up to the first and the last character that are no blanks. -/
theorem trimChars_of_ends (hhead : ∀ c ∈ cs.head?, ¬isBlank c)
    (hlast : ∀ c ∈ cs.getLast?, ¬isBlank c) : trimChars cs = cs := by
  have hfront : cs.dropWhile isBlank = cs := by
    cases cs with
    | nil => rfl
    | cons c cs => simp [hhead c rfl]
  have hback : dropTailWhile isBlank cs = cs :=
    List.rdropWhile_eq_self_iff.2 fun hne ↦ hlast _ (List.getLast_mem_getLast? hne)
  rw [trimChars, hfront, hback]

theorem trimChars_eq_self (h : ∀ c ∈ cs, isBlank c = false) : trimChars cs = cs := by
  apply trimChars_of_ends
  · intro c hc
    simp [h c (List.mem_of_mem_head? hc)]
  · intro c hc
    simp [h c (List.mem_of_getLast? hc)]

/-- What is left of a text lies between blanks and has none at its ends. -/
theorem exists_trimChars (cs : List Char) :
    ∃ before after, cs = before ++ (trimChars cs ++ after) ∧ (∀ c ∈ before, isBlank c) ∧
      (∀ c ∈ after, isBlank c) ∧ (∀ c ∈ (trimChars cs).head?, ¬isBlank c) ∧
        ∀ c ∈ (trimChars cs).getLast?, ¬isBlank c := by
  set front := cs.dropWhile isBlank with hfront
  have hback : trimChars cs ++ front.rtakeWhile isBlank = front :=
    List.rdropWhile_append_rtakeWhile
  refine ⟨cs.takeWhile isBlank, front.rtakeWhile isBlank, ?_, ?_, ?_, ?_, ?_⟩
  · rw [hback, List.takeWhile_append_dropWhile]
  · intro c hc
    exact List.mem_takeWhile_imp hc
  · intro c hc
    exact List.mem_rtakeWhile_imp hc
  · -- the text that is left begins where the front was cut off
    intro c hc
    have hhead : front.head? = some c := by
      rw [← hback, List.head?_append, hc, Option.some_or]
    intro hblank
    have hkept := List.head?_dropWhile_not isBlank cs
    rw [← hfront, hhead] at hkept
    simp [hblank] at hkept
  · intro c hc
    obtain ⟨hne, hlast⟩ := List.mem_getLast?_eq_getLast hc
    rw [hlast]
    exact List.rdropWhile_last_not isBlank front hne

theorem trimChars_trimChars (cs : List Char) : trimChars (trimChars cs) = trimChars cs := by
  obtain ⟨before, after, -, -, -, hhead, hlast⟩ := exists_trimChars cs
  exact trimChars_of_ends hhead hlast

theorem trimChars_eq_nil_iff : trimChars cs = [] ↔ ∀ c ∈ cs, isBlank c := by
  constructor
  · intro hnil
    obtain ⟨before, after, hcs, hbefore, hafter, -⟩ := exists_trimChars cs
    rw [hcs, hnil, List.nil_append]
    exact List.forall_mem_append.2 ⟨hbefore, hafter⟩
  · intro h
    have hfront : cs.dropWhile isBlank = [] := List.dropWhile_eq_nil_iff.2 h
    rw [trimChars, hfront]
    rfl

end WebScaffold.Text
