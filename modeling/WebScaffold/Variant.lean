/-!
# Named alternatives

A closed choice whose alternatives have names of their own, such as the hosts an app can be deployed
to. The names are distinct, so a name stands for at most one alternative.
-/

namespace WebScaffold

class Variant (α : Type) where
  all : List α
  name : α → String
  mem_all : ∀ a : α, a ∈ all
  name_injective : ∀ a b : α, name a = name b → a = b

namespace Variant

variable {α : Type} [Variant α]

/-- The alternative with the given name. -/
def ofName? (text : String) : Option α :=
  (all : List α).find? fun a ↦ name a == text

/-- The names in the order of the alternatives. -/
def names (α : Type) [Variant α] : List String :=
  (all : List α).map name

theorem ofName?_name (a : α) : ofName? (name a) = some a := by
  unfold ofName?
  cases h : (all : List α).find? fun b ↦ name b == name a with
  | none =>
    have := List.find?_eq_none.1 h a (mem_all a)
    simp at this
  | some b =>
    have hb := List.find?_some h
    simp only [beq_iff_eq] at hb
    rw [name_injective b a hb]

end Variant

end WebScaffold
