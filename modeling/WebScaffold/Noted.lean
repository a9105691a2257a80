/-!
# Results with warnings

A result together with the warnings that were given on the way to it, in order.
-/

namespace WebScaffold

/-- A warning and the named values that belong to it. -/
structure Warning where
  message : String
  details : List (String × String)
deriving DecidableEq, Repr

structure Noted (α : Type) where
  value : α
  warnings : List Warning
deriving Repr

namespace Noted

variable {α β : Type}

/-- A result without warnings. -/
def plain (a : α) : Noted α :=
  ⟨a, []⟩

/-- Goes on from a result, keeping the warnings of both parts. -/
def andThen (x : Noted α) (f : α → Noted β) : Noted β :=
  let y := f x.value
  ⟨y.value, x.warnings ++ y.warnings⟩

instance : Monad Noted where
  pure := plain
  bind := andThen

def warn (message : String) (details : List (String × String)) : Noted Unit :=
  ⟨(), [⟨message, details⟩]⟩

@[simp] theorem pure_value (a : α) : (pure a : Noted α).value = a := rfl

@[simp] theorem pure_warnings (a : α) : (pure a : Noted α).warnings = [] := rfl

@[simp] theorem map_value (f : α → β) (x : Noted α) : (f <$> x).value = f x.value := rfl

@[simp] theorem map_warnings (f : α → β) (x : Noted α) : (f <$> x).warnings = x.warnings :=
  List.append_nil x.warnings

@[simp] theorem warn_warnings (message : String) (details : List (String × String)) :
    (warn message details).warnings = [⟨message, details⟩] := rfl

@[simp] theorem bind_value (x : Noted α) (f : α → Noted β) :
    (x >>= f).value = (f x.value).value := rfl

@[simp] theorem bind_warnings (x : Noted α) (f : α → Noted β) :
    (x >>= f).warnings = x.warnings ++ (f x.value).warnings := rfl

instance : LawfulMonad Noted :=
  LawfulMonad.mk' Noted
    (fun x ↦ by simp [Functor.map, andThen, plain])
    (fun _ _ ↦ by simp [bind, andThen, pure, plain])
    (fun x f g ↦ by simp [bind, andThen, List.append_assoc])

end Noted

end WebScaffold
