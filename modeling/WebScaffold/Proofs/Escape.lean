import WebScaffold.Json.Printer
import WebScaffold.Proofs.Taking

/-!
# Escaped text

A text that is escaped and put between quotes is read back as it was. Each character is read in one
step of the reader, whether it stands for itself or is spelled behind a backslash, so two texts that
look alike when they are escaped are one text.
-/

namespace WebScaffold.Json

variable {cs rest : List Char} {n fuel : Nat}

theorem hexValue?_digitChar : ∀ n < 16, hexValue? (Nat.digitChar n) = some n := by
  decide

theorem underscore_notMem_hexPair : ∀ n < 0x20, '_' ∉ hexPair n := by
  decide

theorem readHex_hexPair (h : n < 0x20) (rest : List Char) :
    readHex ('0' :: '0' :: (hexPair n ++ rest)) = .ok (n, rest) := by
  have hhigh : hexValue? (Nat.digitChar (n / 16)) = some (n / 16) :=
    hexValue?_digitChar _ (by omega)
  have hlow : hexValue? (Nat.digitChar (n % 16)) = some (n % 16) :=
    hexValue?_digitChar _ (Nat.mod_lt n (by decide))
  have hzero : hexValue? '0' = some 0 := by decide
  have hvalue : n / 16 * 16 + n % 16 = n := Nat.div_add_mod' n 16
  simp [readHex, hexPair, hzero, hhigh, hlow, hvalue]

theorem readEscape_hexPair (h : n < 0x20) (rest : List Char) :
    readEscape ('u' :: '0' :: '0' :: (hexPair n ++ rest)) = .ok (Char.ofNat n, rest) := by
  have hhex := readHex_hexPair h rest
  have hlow : ¬(0xDC00 ≤ n ∧ n ≤ 0xDFFF) := by omega
  have hhigh : ¬(0xD800 ≤ n ∧ n ≤ 0xDBFF) := by omega
  rw [readEscape, readUnicodeEscape, bind_of_eq_ok hhex]
  simp only [if_neg hlow, if_neg hhigh]
  rfl

/-- A character stands for itself in a string, or it is spelled behind a backslash, with no
underscore, and read back from there. -/
theorem escapeChar_cases (c : Char) :
    (escapeChar c = [c] ∧ c ≠ '"' ∧ c ≠ '\\' ∧ ¬c.toNat < 0x20) ∨
      ∃ spelled, escapeChar c = '\\' :: spelled ∧ '_' ∉ spelled ∧
        ∀ rest, readEscape (spelled ++ rest) = .ok (c, rest) := by
  unfold escapeChar
  split
  case h_8 hquote hbackslash _ _ _ _ _ =>
    split_ifs with hcontrol
    · have hpair := underscore_notMem_hexPair c.toNat hcontrol
      refine .inr ⟨['u', '0', '0'] ++ hexPair c.toNat, rfl, by simp [hpair], fun rest ↦ ?_⟩
      have hread := readEscape_hexPair hcontrol rest
      rwa [Char.ofNat_toNat] at hread
    · exact .inl ⟨rfl, hquote, hbackslash, hcontrol⟩
  all_goals exact .inr ⟨[_], rfl, by decide, fun _ ↦ rfl⟩

theorem escape_cons (c : Char) (cs : List Char) : escape (c :: cs) = escapeChar c ++ escape cs :=
  List.flatMap_cons

theorem escape_append (front back : List Char) :
    escape (front ++ back) = escape front ++ escape back :=
  List.flatMap_append

theorem length_le_length_escape (cs : List Char) : cs.length ≤ (escape cs).length := by
  induction cs with
  | nil => exact Nat.le_refl 0
  | cons c cs ih =>
    have hpos : 0 < (escapeChar c).length := by
      rcases escapeChar_cases c with ⟨hplain, -⟩ | ⟨spelled, hspelled, -⟩
      · simp [hplain]
      · simp [hspelled]
    rw [escape_cons, List.length_append, List.length_cons]
    omega

/-- One step of the reader takes one character, however it is written. -/
theorem readChars_escapeChar (c : Char) (fuel : Nat) (rest : List Char) :
    readChars (fuel + 1) (escapeChar c ++ rest) = (do
      let (tail, behind) ← readChars fuel rest
      return (c :: tail, behind)) := by
  rcases escapeChar_cases c with
    ⟨hplain, hquote, hbackslash, hcontrol⟩ | ⟨spelled, hspelled, -, hread⟩
  · rw [hplain, List.singleton_append, readChars_plain hquote hbackslash, if_neg hcontrol]
  · rw [hspelled, List.cons_append, readChars_backslash, bind_of_eq_ok (hread rest)]

theorem readChars_escape (h : cs.length < fuel) (rest : List Char) :
    readChars fuel (escape cs ++ '"' :: rest) = .ok (cs, rest) := by
  induction fuel generalizing cs with
  | zero => exact absurd h (Nat.not_lt_zero _)
  | succ fuel ih =>
    cases cs with
    | nil => exact readChars_quote fuel rest
    | cons c cs =>
      have hfuel : cs.length < fuel := Nat.lt_of_succ_lt_succ h
      rw [escape_cons, List.append_assoc, readChars_escapeChar, bind_of_eq_ok (ih hfuel)]
      rfl

theorem readString_escape (text : String) (rest : List Char) :
    readString (escape text.toList ++ '"' :: rest) = .ok (text, rest) := by
  have hfuel : text.toList.length < (escape text.toList ++ '"' :: rest).length + 1 := by
    have hlength := length_le_length_escape text.toList
    rw [List.length_append]
    omega
  rw [readString, bind_of_eq_ok (readChars_escape hfuel rest)]
  simp only [String.ofList_toList]
  rfl

theorem escape_injective : Function.Injective escape := by
  intro cs cs' heq
  have hread := readString_escape (String.ofList cs) []
  have hread' := readString_escape (String.ofList cs') []
  rw [String.toList_ofList] at hread hread'
  rw [heq, hread'] at hread
  have htexts := (Prod.mk.inj (Except.ok.inj hread)).1
  exact (String.ofList_injective htexts).symm

end WebScaffold.Json
