import Mathlib.Data.List.Forall2
import Mathlib.Tactic.Common

/-!
# Results that may be errors

When a result that was put together is a value: each of its parts is one then.
-/

namespace WebScaffold

variable {ε δ α β : Type}

theorem bind_eq_ok_iff {x : Except ε α} {f : α → Except ε β} {b : β} :
    x >>= f = .ok b ↔ ∃ a, x = .ok a ∧ f a = .ok b := by
  cases x <;> simp [bind, Except.bind]

theorem bind_of_eq_ok {x : Except ε α} {a : α} (h : x = .ok a) (f : α → Except ε β) :
    x >>= f = f a := by
  rw [h]
  rfl

theorem bind_ne_error {x : Except ε α} {f : α → Except ε β} {error : ε} (hx : x ≠ .error error)
    (hf : ∀ a, f a ≠ .error error) : x >>= f ≠ .error error := by
  cases x with
  | error other => exact fun h ↦ hx (congrArg Except.error (Except.error.inj h))
  | ok a => exact hf a

theorem map_eq_ok_iff {x : Except ε α} {f : α → β} {b : β} :
    x.map f = .ok b ↔ ∃ a, x = .ok a ∧ f a = b := by
  cases x <;> simp [Except.map]

/-- Whether a result is a value can be found out by computing it. -/
theorem exists_eq_ok_of_isSome {x : Except ε α} (h : x.toOption.isSome) : ∃ a, x = .ok a := by
  cases x with
  | error error => cases h
  | ok a => exact ⟨a, rfl⟩

/-- A guard was passed if what it stands in front of is a value. -/
theorem guard_eq_ok_iff {c : Prop} [Decidable c] {error : ε} {f : α → Except ε β} {x : Except ε β}
    {b : β} : (if c then throw error >>= f else x) = .ok b ↔ ¬c ∧ x = .ok b := by
  by_cases h : c <;> simp [h, throw, throwThe, MonadExceptOf.throw, bind, Except.bind]

theorem guard_ne_error {c : Prop} [Decidable c] {reason error : ε} {f : α → Except ε β}
    {x : Except ε β} (hreason : reason ≠ error) (hx : x ≠ .error error) :
    (if c then throw reason >>= f else x) ≠ .error error := by
  by_cases h : c <;> simp [h, hreason, hx, throw, throwThe, MonadExceptOf.throw, bind, Except.bind]

@[simp]
theorem mapError_eq_ok_iff {wrap : δ → ε} {x : Except δ α} {a : α} :
    x.mapError wrap = .ok a ↔ x = .ok a := by
  cases x <;> simp [Except.mapError]

theorem mapM_eq_ok_iff {f : α → Except ε β} {as : List α} {bs : List β} :
    as.mapM f = .ok bs ↔ List.Forall₂ (fun a b ↦ f a = .ok b) as bs := by
  induction as generalizing bs with
  | nil => cases bs <;> simp [pure, Except.pure]
  | cons a as ih =>
    rw [List.mapM_cons, bind_eq_ok_iff]
    constructor
    · rintro ⟨b, hb, hrest⟩
      obtain ⟨rest, hmap, hpure⟩ := bind_eq_ok_iff.1 hrest
      obtain rfl : b :: rest = bs := Except.ok.inj hpure
      exact .cons hb (ih.mp hmap)
    · rintro (_ | ⟨hb, hrest⟩)
      exact ⟨_, hb, bind_eq_ok_iff.2 ⟨_, ih.mpr hrest, rfl⟩⟩

end WebScaffold
