import WebScaffold.Json.Printer
import WebScaffold.Proofs.Case

/-!
# The text of a number

Whatever number is printed, its text is made of digits, signs, a point and the mark of an exponent.
It holds none of the characters that mean something in the text around it.
-/

namespace WebScaffold

/-- The characters that the text of a number is made of. -/
def IsNumberChar (c : Char) : Prop :=
  c.isDigit ∨ c ∈ ['-', '+', '.', 'e']

instance (c : Char) : Decidable (IsNumberChar c) :=
  inferInstanceAs (Decidable (_ ∨ _))

theorem isNumberChar_toDigits (n : Nat) : ∀ c ∈ Nat.toDigits 10 n, IsNumberChar c :=
  fun _ hc ↦ .inl (Nat.isDigit_of_mem_toDigits (by decide) (by decide) hc)

namespace Binary64

theorem isNumberChar_trimmedDigits (n : Nat) : ∀ c ∈ trimmedDigits n, IsNumberChar c := by
  intro c hc
  have hmem := (List.dropWhile_suffix _).subset (List.mem_reverse.1 hc)
  exact isNumberChar_toDigits n c (List.mem_reverse.1 hmem)

theorem isNumberChar_zeros (n : Nat) : ∀ c ∈ List.replicate n '0', IsNumberChar c := by
  intro c hc
  rw [List.eq_of_mem_replicate hc]
  decide

theorem isNumberChar_layout {digits : List Char} (hdigits : ∀ c ∈ digits, IsNumberChar c)
    (point : Int) : ∀ c ∈ layout digits point, IsNumberChar c := by
  have htake (n : Nat) : ∀ c ∈ digits.take n, IsNumberChar c :=
    fun c hc ↦ hdigits c (List.mem_of_mem_take hc)
  have hdrop (n : Nat) : ∀ c ∈ digits.drop n, IsNumberChar c :=
    fun c hc ↦ hdigits c (List.mem_of_mem_drop hc)
  have hfraction : ∀ c ∈ if digits.length ≤ 1 then [] else '.' :: digits.drop 1,
      IsNumberChar c := by
    split_ifs
    · simp
    · exact List.forall_mem_cons.2 ⟨by decide, hdrop 1⟩
  have hmark : ∀ c ∈ ['e', if 0 ≤ point - 1 then '+' else '-'], IsNumberChar c := by
    split_ifs <;> decide
  unfold layout
  extract_lets zeros fraction sign
  split_ifs
  · simp only [List.forall_mem_append]
    exact ⟨⟨hdigits, isNumberChar_zeros _⟩, by decide⟩
  · simp only [List.forall_mem_append]
    exact ⟨⟨htake _, by decide⟩, hdrop _⟩
  · simp only [List.forall_mem_append]
    exact ⟨⟨by decide, isNumberChar_zeros _⟩, hdigits⟩
  · simp only [List.forall_mem_append]
    exact ⟨⟨⟨htake _, hfraction⟩, hmark⟩, isNumberChar_toDigits _⟩

theorem isNumberChar_text (x : Binary64) : ∀ c ∈ x.text, IsNumberChar c := by
  have hmagnitude : ∀ c ∈ if x.isZero then ['0', '.', '0'] else
      layout (trimmedDigits x.shortest.digits)
        (digitCount x.shortest.digits + x.shortest.exponent), IsNumberChar c := by
    split_ifs
    · decide
    · exact isNumberChar_layout (isNumberChar_trimmedDigits _) _
  unfold text
  extract_lets found magnitude
  split_ifs
  · exact List.forall_mem_cons.2 ⟨by decide, hmagnitude⟩
  · exact hmagnitude

end Binary64

namespace Json

theorem isNumberChar_printNumber (n : JsonNumber) : ∀ c ∈ printNumber n, IsNumberChar c := by
  cases n with
  | integer i =>
    change ∀ c ∈ i.repr.toList, IsNumberChar c
    cases i with
    | ofNat n => simpa [Int.repr] using isNumberChar_toDigits n
    | negSucc n => simpa [Int.repr] using ⟨by decide, isNumberChar_toDigits (n + 1)⟩
  | real x => exact x.isNumberChar_text

end Json

end WebScaffold
