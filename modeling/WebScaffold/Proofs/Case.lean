import Mathlib.Tactic.Common
import WebScaffold.Text.Case

/-!
# Lower case of names

Lower case goes character by character, except that the sign for a sigma depends on its neighbours.
Small letters, digits and underscores stay as they are. Beyond ASCII there are two characters only
whose lower case begins with an ASCII character.
-/

namespace WebScaffold.Text

variable {c : Char} {cs before : List Char}

/-- What holds of all characters in a text is decided by going through the text, not through all the
characters there are. -/
instance (priority := high) decidableForallMem (p : Char → Prop) [DecidablePred p]
    (cs : List Char) : Decidable (∀ c ∈ cs, p c) :=
  List.decidableBAll p cs

/-- A small letter, a digit or an underscore. -/
def isSmall (c : Char) : Bool :=
  c.isLower || c.isDigit || c == '_'

theorem toNat_toLower (c : Char) :
    c.toLower.toNat = if 65 ≤ c.toNat ∧ c.toNat ≤ 90 then c.toNat + 32 else c.toNat := by
  unfold Char.toLower
  by_cases hupper : 'A'.val ≤ c.val ∧ c.val ≤ 'Z'.val
  · have hrange : 65 ≤ c.toNat ∧ c.toNat ≤ 90 := hupper
    have hsum : (c.val + ('a'.val - 'A'.val)).toNat = (c.toNat + 32) % 2 ^ 32 :=
      UInt32.toNat_add _ _
    rw [dif_pos hupper, if_pos hrange]
    refine hsum.trans (Nat.mod_eq_of_lt ?_)
    omega
  · have hrange : ¬(65 ≤ c.toNat ∧ c.toNat ≤ 90) := hupper
    rw [dif_neg hupper, if_neg hrange]

theorem isUpper_iff : c.isUpper ↔ 65 ≤ c.toNat ∧ c.toNat ≤ 90 :=
  decide_eq_true_iff

theorem isLower_iff : c.isLower ↔ 97 ≤ c.toNat ∧ c.toNat ≤ 122 := by
  change (decide ('a'.val ≤ c.val) && decide (c.val ≤ 'z'.val)) = true ↔ _
  rw [Bool.and_eq_true, decide_eq_true_iff, decide_eq_true_iff]
  rfl

theorem isDigit_iff : c.isDigit ↔ 48 ≤ c.toNat ∧ c.toNat ≤ 57 := by
  change (decide ('0'.val ≤ c.val) && decide (c.val ≤ '9'.val)) = true ↔ _
  rw [Bool.and_eq_true, decide_eq_true_iff, decide_eq_true_iff]
  rfl

theorem isAlpha_iff : c.isAlpha ↔
    (65 ≤ c.toNat ∧ c.toNat ≤ 90) ∨ (97 ≤ c.toNat ∧ c.toNat ≤ 122) := by
  rw [← isUpper_iff, ← isLower_iff]
  exact Bool.or_eq_true_iff

theorem eq_underscore_iff : c = '_' ↔ c.toNat = 95 :=
  Char.toNat_inj.symm

theorem isSmall_iff : isSmall c ↔
    (97 ≤ c.toNat ∧ c.toNat ≤ 122) ∨ (48 ≤ c.toNat ∧ c.toNat ≤ 57) ∨ c.toNat = 95 := by
  simp only [isSmall, Bool.or_eq_true, beq_iff_eq, isLower_iff, isDigit_iff, eq_underscore_iff,
    or_assoc]

theorem toLower_of_isSmall (h : isSmall c) : c.toLower = c := by
  rw [isSmall_iff] at h
  rw [← Char.toNat_inj, toNat_toLower, if_neg]
  omega

/-! ## Characters beyond ASCII -/

theorem toNat_ofNat {n : Nat} (h : n.isValidChar) : (Char.ofNat n).toNat = n := by
  rw [Char.ofNat, dif_pos h]
  rfl

/-- No run goes over from ASCII. Beyond it the sign for the unit of temperature is a letter k, and
is the only one to become an ASCII letter. -/
theorem lowerRuns_ranges : ∀ run ∈ lowerRuns, (run.first < 128 ∧ run.last < 128) ∨
    (run.first = 0x212A ∧ run.last = 0x212A ∧ run.offset = 107 - 0x212A) ∨
      (128 ≤ run.first + run.offset ∧ run.last + run.offset < 0xD800) ∨
      (0xDFFF < run.first + run.offset ∧ run.last + run.offset < 0x110000) := by
  decide +kernel

/-- Beyond ASCII a character is its own lower case, or it moves by the offset of its run. -/
theorem mapByRuns_lowerRuns_cases (hc : 128 ≤ c.toNat) :
    mapByRuns lowerRuns c = c ∨
      ∃ run ∈ lowerRuns, run.first ≤ c.toNat ∧ c.toNat ≤ run.last ∧
        ((mapByRuns lowerRuns c).toNat : Int) = c.toNat + run.offset := by
  unfold mapByRuns
  cases hfind : lowerRuns.find? (·.contains c.toNat) with
  | none => exact .inl rfl
  | some run =>
    have hcontains := List.find?_some hfind
    have hrun := List.mem_of_find?_eq_some hfind
    simp only [CaseRun.contains, Bool.and_eq_true, decide_eq_true_eq, beq_iff_eq] at hcontains
    obtain ⟨⟨hfirst, hlast⟩, -⟩ := hcontains
    refine .inr ⟨run, hrun, hfirst, hlast, ?_⟩
    have hranges := lowerRuns_ranges run hrun
    have hpositive : 0 ≤ (c.toNat : Int) + run.offset := by omega
    have hvalid : ((c.toNat : Int) + run.offset).toNat.isValidChar := by
      rw [Nat.isValidChar]
      omega
    rw [toNat_ofNat hvalid]
    exact Int.toNat_of_nonneg hpositive

theorem mapByRuns_lowerRuns (hc : 128 ≤ c.toNat) :
    (c.toNat = 0x212A ∧ mapByRuns lowerRuns c = 'k') ∨
      128 ≤ (mapByRuns lowerRuns c).toNat := by
  rcases mapByRuns_lowerRuns_cases hc with hsame | ⟨run, hrun, hfirst, hlast, hmoved⟩
  · rw [hsame]
    exact .inr hc
  · rcases lowerRuns_ranges run hrun with hascii | hkelvin | hlow | hhigh
    · omega
    · left
      refine ⟨by omega, ?_⟩
      have hletter : (mapByRuns lowerRuns c).toNat = 107 := by omega
      exact Char.toNat_inj.1 hletter
    · right
      omega
    · right
      omega

/-! ## Texts -/

theorem lowerAfter_cons_of_ascii (hc : c.toNat < 128) (before cs : List Char) :
    lowerAfter before (c :: cs) = c.toLower :: lowerAfter (c :: before) cs := by
  have hsigma : c ≠ 'Σ' := by
    rintro rfl
    exact absurd hc (by decide)
  rw [lowerAfter, if_neg hsigma, lowerChar, if_pos hc, List.singleton_append]

theorem exists_lowerAfter_cons (hc : 128 ≤ c.toNat) (before cs : List Char) :
    ∃ d rest, lowerAfter before (c :: cs) = d :: rest ++ lowerAfter (c :: before) cs ∧
      ((c = 'İ' ∧ d = 'i') ∨ (c.toNat = 0x212A ∧ d = 'k') ∨ 128 ≤ d.toNat) := by
  rw [lowerAfter]
  by_cases hsigma : c = 'Σ'
  · rw [if_pos hsigma]
    split_ifs
    · exact ⟨'ς', [], rfl, .inr (.inr (by decide))⟩
    · exact ⟨'σ', [], rfl, .inr (.inr (by decide))⟩
  · rw [if_neg hsigma, lowerChar, if_neg (Nat.not_lt.2 hc)]
    split_ifs with hdotted
    · exact ⟨'i', ['\u0307'], rfl, .inl ⟨hdotted, rfl⟩⟩
    · exact ⟨mapByRuns lowerRuns c, [], rfl, .inr (mapByRuns_lowerRuns hc)⟩

/-- Of the ASCII characters only an i and a k come first for a character beyond ASCII. -/
theorem not_prefix_lowerAfter_cons (hc : 128 ≤ c.toNat) {d : Char} (hd : d.toNat < 128)
    (hi : d ≠ 'i') (hk : d ≠ 'k') (rest : List Char) :
    ¬d :: rest <+: lowerAfter before (c :: cs) := by
  obtain ⟨first, others, hlower, hfirst⟩ := exists_lowerAfter_cons hc before cs
  rw [hlower, List.cons_append, List.cons_prefix_cons]
  rintro ⟨rfl, -⟩
  rcases hfirst with ⟨-, hfirst⟩ | ⟨-, hfirst⟩ | hfirst
  · exact hi hfirst
  · exact hk hfirst
  · omega

theorem lowerAfter_of_small (h : ∀ c ∈ cs, isSmall c) : lowerAfter before cs = cs := by
  induction cs generalizing before with
  | nil => rfl
  | cons c cs ih =>
    obtain ⟨hc, hcs⟩ := List.forall_mem_cons.1 h
    have hascii : c.toNat < 128 := by
      rw [isSmall_iff] at hc
      omega
    rw [lowerAfter_cons_of_ascii hascii, toLower_of_isSmall hc, ih hcs]

end WebScaffold.Text
