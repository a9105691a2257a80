import Mathlib.Data.List.Infix
import WebScaffold.Questionnaire

/-!
# The lines of an input

An input comes as bytes and is cut into lines before anyone knows whether it is a text. When it is
one, the cuts fall between its characters: the byte of a line break stands in the encoding of no
other character. So the lines of the bytes are the lines of the text, and each of them is a text.
-/

namespace WebScaffold.Questionnaire

variable {cs rest : List Char} {lines : List String} {front back : List UInt8}

/-- The lines of a text in their order, each up to its line break; the last one may lack it. -/
inductive AreLines : List Char → List String → Prop
  | nil : AreLines [] []
  | last (line : List Char) (hline : line ≠ []) (hbreak : '\n' ∉ line) :
      AreLines line [String.ofList line]
  | cons (line : List Char) (hbreak : '\n' ∉ line) {rest : List Char} {lines : List String}
      (hrest : AreLines rest lines) :
      AreLines (line ++ '\n' :: rest) (String.ofList (line ++ ['\n']) :: lines)

theorem exists_areLines (cs : List Char) : ∃ lines, AreLines cs lines := by
  induction cs with
  | nil => exact ⟨[], .nil⟩
  | cons c cs ih =>
    obtain ⟨lines, hlines⟩ := ih
    by_cases hc : c = '\n'
    · subst hc
      exact ⟨_, .cons [] List.not_mem_nil hlines⟩
    · -- any other character belongs to the line that comes next
      have hmem {line : List Char} (h : '\n' ∉ line) : '\n' ∉ c :: line := by
        simpa [Ne.symm hc] using h
      cases hlines with
      | nil => exact ⟨_, .last [c] (by simp) (hmem List.not_mem_nil)⟩
      | last _ _ hbreak => exact ⟨_, .last (c :: cs) (by simp) (hmem hbreak)⟩
      | cons line hbreak hrest => exact ⟨_, .cons (c :: line) (hmem hbreak) hrest⟩

/-! ## Bytes -/

/-- The bytes of a text. -/
def bytesOf (text : String) : List UInt8 :=
  text.toByteArray.data.toList

theorem bytesOf_eq_flatMap (text : String) :
    bytesOf text = text.toList.flatMap String.utf8EncodeChar := by
  rw [bytesOf, ← String.utf8Encode_toList, List.utf8Encode, List.data_toByteArray]

theorem fromUTF8?_flatMap (cs : List Char) :
    String.fromUTF8? ⟨(cs.flatMap String.utf8EncodeChar).toArray⟩ = some (String.ofList cs) := by
  have hbytes : (⟨(cs.flatMap String.utf8EncodeChar).toArray⟩ : ByteArray) =
      (String.ofList cs).toByteArray := by
    rw [String.toByteArray_ofList, List.utf8Encode]
    exact ByteArray.ext List.data_toByteArray.symm
  rw [hbytes]
  simp only [String.fromUTF8?, Option.dite_none_right_eq_some]
  exact ⟨(String.ofList cs).isValidUTF8, rfl⟩

/-- The bytes of the other characters are bytes of ASCII characters or large. -/
theorem newline_notMem_utf8EncodeChar {c : Char} (hc : c ≠ '\n') :
    10 ∉ String.utf8EncodeChar c := by
  have hcode : c.val.toNat ≠ 10 := fun h ↦ hc (Char.toNat_inj.1 h)
  have hbyte {n : Nat} (hn : n < 256) (h : n ≠ 10) : (10 : UInt8) ≠ UInt8.ofNat n := by
    intro heq
    have htoNat := congrArg UInt8.toNat heq
    rw [UInt8.toNat_ofNat_of_lt' hn] at htoNat
    exact h htoNat.symm
  unfold String.utf8EncodeChar
  dsimp only
  split_ifs
  all_goals
    simp only [List.mem_cons, List.not_mem_nil, or_false, not_or]
    and_intros
  all_goals
    apply hbyte <;> omega

theorem newline_notMem_flatMap (h : '\n' ∉ cs) : 10 ∉ cs.flatMap String.utf8EncodeChar := by
  intro hmem
  obtain ⟨c, hc, hbyte⟩ := List.mem_flatMap.1 hmem
  exact newline_notMem_utf8EncodeChar (ne_of_mem_of_not_mem hc h) hbyte

theorem splitLines_append_cons (h : 10 ∉ front) (back : List UInt8) :
    splitLines (front ++ 10 :: back) = (front ++ [10]) :: splitLines back := by
  induction front with
  | nil => rfl
  | cons byte front ih =>
    obtain ⟨hbyte, hfront⟩ := not_or.1 (mt List.mem_cons.2 h)
    rw [List.cons_append, splitLines, if_neg (Ne.symm hbyte), ih hfront]
    rfl

theorem splitLines_of_notMem (hne : front ≠ []) (h : 10 ∉ front) : splitLines front = [front] := by
  induction front with
  | nil => exact absurd rfl hne
  | cons byte front ih =>
    obtain ⟨hbyte, hfront⟩ := not_or.1 (mt List.mem_cons.2 h)
    rw [splitLines, if_neg (Ne.symm hbyte)]
    cases front with
    | nil => rfl
    | cons next front => rw [ih (by simp) hfront]

theorem splitLines_flatMap (h : AreLines cs lines) :
    splitLines (cs.flatMap String.utf8EncodeChar) =
      lines.map fun line ↦ line.toList.flatMap String.utf8EncodeChar := by
  induction h with
  | nil => rfl
  | last line hline hbreak =>
    have hne : line.flatMap String.utf8EncodeChar ≠ [] := by
      simpa [List.flatMap_eq_nil_iff] using List.exists_mem_of_ne_nil line hline
    rw [splitLines_of_notMem hne (newline_notMem_flatMap hbreak), List.map_singleton,
      String.toList_ofList]
  | cons line hbreak _ ih =>
    have hnewline : String.utf8EncodeChar '\n' = [10] := rfl
    rw [List.flatMap_append, List.flatMap_cons, hnewline, List.singleton_append,
      splitLines_append_cons (newline_notMem_flatMap hbreak), ih, List.map_cons,
      String.toList_ofList, List.flatMap_append, List.flatMap_singleton, hnewline]

/-- The lines of the bytes of a text are the lines of the text. -/
theorem inputLines_bytesOf {text : String} (h : AreLines text.toList lines) :
    inputLines (bytesOf text) = lines.map some := by
  rw [inputLines, bytesOf_eq_flatMap, splitLines_flatMap h, List.map_map]
  apply List.map_congr_left
  intro line _
  rw [Function.comp_apply, fromUTF8?_flatMap, String.ofList_toList]

end WebScaffold.Questionnaire
