import WebScaffold.Proofs.Softening

/-!
# What a value weighs

The characters that mending may change are counted, in texts and in the values read from them: the
commas between the parts of a value, and the commas and typographic quotes in its strings. A text
in which a value is written weighs as much as the value and its commas too many.
-/

namespace WebScaffold.Json

variable {α : Type}

/-! ## Texts and weights of values -/

mutual

/-- The texts in a value: strings, and keys of members. -/
def texts : Json → List String
  | .string s => [s]
  | .array items => textsOfItems items
  | .object members => textsOfMembers members
  | _ => []

def textsOfItems : List Json → List String
  | [] => []
  | item :: items => texts item ++ textsOfItems items

def textsOfMembers : List (String × Json) → List String
  | [] => []
  | (key, value) :: members => key :: texts value ++ textsOfMembers members

end

mutual

/-- The commas between the parts of a value, and what `f` counts in its texts. -/
def weight (f : String → Nat) : Json → Nat
  | .string s => f s
  | .array items => weightOfItems f items - 1
  | .object members => weightOfMembers f members - 1
  | _ => 0

/-- Items with a comma for each. -/
def weightOfItems (f : String → Nat) : List Json → Nat
  | [] => 0
  | item :: items => 1 + weight f item + weightOfItems f items

def weightOfMembers (f : String → Nat) : List (String × Json) → Nat
  | [] => 0
  | (key, value) :: members => 1 + (f key + weight f value) + weightOfMembers f members

end

/-- What parts weigh together, with a comma for each. -/
def weightOfParts (cost : α → Nat) : List α → Nat
  | [] => 0
  | x :: xs => 1 + cost x + weightOfParts cost xs

section

variable {f g : String → Nat}

theorem weight_array (f : String → Nat) (items : List Json) :
    weight f (.array items) = weightOfParts (weight f) items - 1 := by
  have hitems : weightOfItems f items = weightOfParts (weight f) items := by
    induction items with
    | nil => rfl
    | cons item items ih => simp [weightOfItems, weightOfParts, ih]
  rw [weight, hitems]

theorem weight_object (f : String → Nat) (members : List (String × Json)) :
    weight f (.object members) =
      weightOfParts (fun member ↦ f member.1 + weight f member.2) members - 1 := by
  have hmembers : weightOfMembers f members =
      weightOfParts (fun member ↦ f member.1 + weight f member.2) members := by
    induction members with
    | nil => rfl
    | cons member members ih => simp [weightOfMembers, weightOfParts, ih]
  rw [weight, hmembers]

theorem mem_texts_array {items : List Json} {s : String} :
    s ∈ texts (.array items) ↔ ∃ item ∈ items, s ∈ texts item := by
  rw [texts]
  induction items with
  | nil => simp [textsOfItems]
  | cons item items ih => simp [textsOfItems, ih]

theorem mem_texts_object {members : List (String × Json)} {s : String} :
    s ∈ texts (.object members) ↔ ∃ member ∈ members, s = member.1 ∨ s ∈ texts member.2 := by
  rw [texts]
  induction members with
  | nil => simp [textsOfMembers]
  | cons member members ih => simp [textsOfMembers, ih, or_assoc]

mutual

/-- A value weighs no less by a greater count of its texts, and more as soon as one text does. -/
theorem weight_le (hfg : ∀ s, f s ≤ g s) : (v : Json) →
    weight f v ≤ weight g v ∧ (weight g v ≤ weight f v → ∀ s ∈ texts v, f s = g s)
  | .string s => by
    have hs := hfg s
    simp only [weight, texts, List.forall_mem_singleton]
    omega
  | .array (item :: items) => by
    obtain ⟨hle, heq⟩ := weightOfItems_le hfg (item :: items)
    simp only [weightOfItems] at hle heq
    simp only [weight, texts, weightOfItems]
    exact ⟨by omega, fun h ↦ heq (by omega)⟩
  | .object ((key, value) :: members) => by
    obtain ⟨hle, heq⟩ := weightOfMembers_le hfg ((key, value) :: members)
    simp only [weightOfMembers] at hle heq
    simp only [weight, texts, weightOfMembers]
    exact ⟨by omega, fun h ↦ heq (by omega)⟩
  | .array [] | .object [] | .null | .bool _ | .number _ => by
    simp [weight, weightOfItems, weightOfMembers, texts, textsOfItems, textsOfMembers]

theorem weightOfItems_le (hfg : ∀ s, f s ≤ g s) : (items : List Json) →
    weightOfItems f items ≤ weightOfItems g items ∧
      (weightOfItems g items ≤ weightOfItems f items → ∀ s ∈ textsOfItems items, f s = g s)
  | [] => by simp [weightOfItems, textsOfItems]
  | item :: items => by
    obtain ⟨hle, heq⟩ := weight_le hfg item
    obtain ⟨hle', heq'⟩ := weightOfItems_le hfg items
    simp only [weightOfItems, textsOfItems, List.forall_mem_append]
    exact ⟨by omega, fun h ↦ ⟨heq (by omega), heq' (by omega)⟩⟩

theorem weightOfMembers_le (hfg : ∀ s, f s ≤ g s) : (members : List (String × Json)) →
    weightOfMembers f members ≤ weightOfMembers g members ∧
      (weightOfMembers g members ≤ weightOfMembers f members →
        ∀ s ∈ textsOfMembers members, f s = g s)
  | [] => by simp [weightOfMembers, textsOfMembers]
  | (key, value) :: members => by
    have hkey := hfg key
    obtain ⟨hle, heq⟩ := weight_le hfg value
    obtain ⟨hle', heq'⟩ := weightOfMembers_le hfg members
    simp only [weightOfMembers, textsOfMembers, List.cons_append, List.forall_mem_cons,
      List.forall_mem_append]
    exact ⟨by omega, fun h ↦ ⟨by omega, heq (by omega), heq' (by omega)⟩⟩

end

end

/-! ## Texts that keep their escapes whole -/

/-- How many characters of a text mending may change. -/
def mendables (cs : List Char) : Nat :=
  cs.countP isMendable

def mendablesOf (s : String) : Nat :=
  mendables s.toList

/-- A text in which backslashes begin escapes, none of which spells a character that mending may
change. -/
inductive Aligned : List Char → Prop where
  | nil : Aligned []
  | plain {c : Char} {cs : List Char} (hc : c ≠ '\\') (hcs : Aligned cs) : Aligned (c :: cs)
  | escape {c : Char} {spelled cs : List Char} (hc : isMendable c = false)
    (hspelled : ∀ d ∈ spelled, isMendable d = false)
    (hread : ∀ rest, readEscape (spelled ++ rest) = .ok (c, rest)) (hcs : Aligned cs) :
    Aligned ('\\' :: (spelled ++ cs))

section

variable {c : Char} {cs ds front rest : List Char}

@[simp]
theorem mendables_append (cs ds : List Char) : mendables (cs ++ ds) = mendables cs + mendables ds :=
  List.countP_append

theorem mendables_cons (c : Char) (cs : List Char) :
    mendables (c :: cs) = mendables [c] + mendables cs :=
  mendables_append [c] cs

theorem mendables_eq_zero (h : ∀ c ∈ cs, isMendable c = false) : mendables cs = 0 :=
  List.countP_eq_zero.2 fun c hc ↦ by simp [h c hc]

theorem Aligned.append (hcs : Aligned cs) (hds : Aligned ds) : Aligned (cs ++ ds) := by
  induction hcs with
  | nil => exact hds
  | plain hc _ ih => exact .plain hc ih
  | escape hc hspelled hread _ ih =>
    rw [List.cons_append, List.append_assoc]
    exact .escape hc hspelled hread ih

theorem aligned_of_notMem (h : '\\' ∉ cs) : Aligned cs := by
  induction cs with
  | nil => exact .nil
  | cons c cs ih =>
    obtain ⟨hc, hcs⟩ := List.ne_and_not_mem_of_not_mem_cons h
    exact .plain hc.symm (ih hcs)

theorem Aligned.of_append (hfront : '\\' ∉ front) (h : Aligned (front ++ rest)) :
    Aligned rest := by
  induction front with
  | nil => exact h
  | cons c front ih =>
    obtain ⟨hc, hfront⟩ := List.ne_and_not_mem_of_not_mem_cons hfront
    rw [List.cons_append] at h
    generalize hshape : c :: (front ++ rest) = cs at h
    cases h with
    | nil => cases hshape
    | plain _ hcs =>
      obtain ⟨-, rfl⟩ := List.cons.inj hshape
      exact ih hfront hcs
    | escape => exact absurd (List.cons.inj hshape).1.symm hc

theorem straightQuote_ne_backslash (hc : c ≠ '\\') : straightQuote c ≠ '\\' := by
  unfold straightQuote
  split_ifs
  · decide
  · exact hc

/-- Mending takes no escape apart. -/
theorem Aligned.mended (h : Aligned cs) (dropping : Bool) :
    Aligned ((dropTrailingCommas dropping cs).map straightQuote) := by
  induction h generalizing dropping with
  | nil => exact .nil
  | plain hc _ ih =>
    unfold dropTrailingCommas
    split_ifs
    · exact ih true
    · exact ih true
    · exact .plain (straightQuote_ne_backslash hc) (ih false)
  | @escape c spelled cs hc hspelled hread _ ih =>
    have hrest : (dropTrailingCommas false (spelled ++ cs)).map straightQuote =
        spelled ++ (dropTrailingCommas false cs).map straightQuote := softens_of_plain hspelled cs
    rw [dropTrailingCommas_cons (by decide) (fun _ ↦ rfl), List.map_cons, hrest]
    exact .escape hc hspelled hread (ih false)

theorem isMendable_hexPair : ∀ n < 0x20, ∀ d ∈ hexPair n, isMendable d = false := by
  decide

theorem isMendable_of_control (h : c.toNat < 0x20) : isMendable c = false :=
  isMendable_eq_false_of (·.toNat < 0x20) (by decide) h

/-- Characters that mending may change are neither spelled in another way nor used to spell
others. -/
theorem isMendable_of_escaped (h : escapeChar c ≠ [c]) :
    isMendable c = false ∧ ∀ d ∈ escapeChar c, isMendable d = false := by
  unfold escapeChar at h ⊢
  split at h
  case h_8 =>
    split_ifs at h ⊢ with hcontrol
    · refine ⟨isMendable_of_control hcontrol, List.forall_mem_append.2 ⟨by decide, ?_⟩⟩
      exact isMendable_hexPair _ hcontrol
    · exact absurd rfl h
  all_goals decide

theorem aligned_escapeChar (c : Char) : Aligned (escapeChar c) := by
  by_cases hplain : escapeChar c = [c]
  · rw [hplain]
    refine .plain ?_ .nil
    rintro rfl
    cases hplain
  · obtain ⟨hc, hspelled⟩ := isMendable_of_escaped hplain
    rcases escapeChar_cases c with ⟨hsame, -⟩ | ⟨spelled, hshape, -, hread⟩
    · exact absurd hsame hplain
    · rw [hshape] at hspelled ⊢
      simpa using Aligned.escape hc (List.forall_mem_cons.1 hspelled).2 hread .nil

theorem mendables_escapeChar (c : Char) : mendables (escapeChar c) = mendables [c] := by
  by_cases hplain : escapeChar c = [c]
  · rw [hplain]
  · obtain ⟨hc, hspelled⟩ := isMendable_of_escaped hplain
    rw [mendables_eq_zero hspelled, mendables_eq_zero (List.forall_mem_singleton.2 hc)]

theorem aligned_escape (cs : List Char) : Aligned (escape cs) := by
  induction cs with
  | nil => exact .nil
  | cons c cs ih =>
    rw [escape_cons]
    exact (aligned_escapeChar c).append ih

theorem mendables_escape (cs : List Char) : mendables (escape cs) = mendables cs := by
  induction cs with
  | nil => rfl
  | cons c cs ih =>
    rw [escape_cons, mendables_append, mendables_escapeChar, ih, mendables_cons c cs]

theorem mendables_straightQuote (c : Char) :
    mendables [straightQuote c] ≤ mendables [c] ∧
      (mendables [c] ≤ mendables [straightQuote c] → straightQuote c = c) := by
  by_cases hsame : straightQuote c = c
  · rw [hsame]
    exact ⟨Nat.le_refl _, fun _ ↦ rfl⟩
  · have hquote : straightQuote c = '"' := by
      unfold straightQuote at hsame ⊢
      split_ifs at hsame ⊢
      · rfl
      · exact absurd rfl hsame
    have hc : mendables [c] = 1 := by simp [mendables, isMendable, hsame]
    rw [hquote, hc, show mendables ['"'] = 0 from rfl]
    exact ⟨Nat.zero_le 1, fun h ↦ absurd h (by decide)⟩

/-- Mending makes nothing heavier. -/
theorem mendables_mended_le (dropping : Bool) (cs : List Char) :
    mendables ((dropTrailingCommas dropping cs).map straightQuote) ≤ mendables cs := by
  induction cs generalizing dropping with
  | nil => exact Nat.le_refl 0
  | cons c cs ih =>
    have htrue := ih true
    have hfalse := ih false
    have hc := (mendables_straightQuote c).1
    unfold dropTrailingCommas
    rw [mendables_cons c cs]
    split_ifs
    · omega
    · omega
    · rw [List.map_cons, mendables_cons (straightQuote c)]
      omega

/-- Mending leaves alone what it does not make lighter. -/
theorem softened_eq_of_le {cs : List Char} (h : mendables cs ≤ mendables (softened cs)) :
    softened cs = cs := by
  induction cs with
  | nil => rfl
  | cons c cs ih =>
    have htrue := mendables_mended_le true cs
    have hfalse := mendables_mended_le false cs
    have hc := mendables_straightQuote c
    unfold softened dropTrailingCommas at h ⊢
    rw [mendables_cons c cs] at h
    split_ifs at h ⊢ with hdropped hcomma
    · cases hdropped
    · obtain rfl : c = ',' := by
        simp only [Bool.and_eq_true, beq_iff_eq] at hcomma
        exact hcomma.1
      rw [show mendables [','] = 1 from rfl] at h
      omega
    · rw [List.map_cons, mendables_cons (straightQuote c)] at h
      rw [List.map_cons, hc.2 (by omega)]
      exact congrArg _ (ih (by unfold softened; omega))

end

/-! ## What is written -/

/-- A text that keeps its escapes whole, and how many of its characters mending may change. -/
structure Weighed (n : Nat) (cs : List Char) : Prop where
  aligned : Aligned cs
  mendables_eq : mendables cs = n

section

variable {n m k : Nat} {c : Char} {cs ds closing more inner : List Char}

theorem Weighed.append (hcs : Weighed n cs) (hds : Weighed m ds) : Weighed (n + m) (cs ++ ds) where
  aligned := hcs.aligned.append hds.aligned
  mendables_eq := by rw [mendables_append, hcs.mendables_eq, hds.mendables_eq]

theorem weighed_plain (h : ∀ c ∈ cs, c ≠ '\\' ∧ isMendable c = false) : Weighed 0 cs where
  aligned := aligned_of_notMem fun hmem ↦ (h _ hmem).1 rfl
  mendables_eq := mendables_eq_zero fun c hc ↦ (h c hc).2

theorem plain_of_isBlank (h : Text.isBlank c) : c ≠ '\\' ∧ isMendable c = false := by
  refine ⟨?_, isMendable_eq_false_of (Text.isBlank ·) (by decide) h⟩
  rintro rfl
  cases h

theorem weighed_blanks (h : ∀ b ∈ cs, Text.isBlank b) : Weighed 0 cs :=
  weighed_plain fun b hb ↦ plain_of_isBlank (h b hb)

theorem weighed_jsonBlanks (h : ∀ b ∈ cs, isJsonBlank b) : Weighed 0 cs :=
  weighed_blanks fun b hb ↦ isBlank_of_isJsonBlank (h b hb)

theorem weighed_comma : Weighed 1 [','] :=
  ⟨aligned_of_notMem (by decide), rfl⟩

theorem Closing.weighed (h : Closing k closing) : Weighed k closing := by
  cases h with
  | blanks hblanks => exact weighed_jsonBlanks hblanks
  | comma hbefore hafter =>
    simpa using (weighed_jsonBlanks hbefore).append (weighed_comma.append (weighed_blanks hafter))

/-- The texts of a kind weigh what is written in them and the commas that are too many. -/
def Weighs (cost : α → Nat) (part : α → Nat → List Char → Prop) : Prop :=
  ∀ ⦃x n text⦄, part x n text → Weighed (cost x + n) text

variable {part : α → Nat → List Char → Prop} {cost : α → Nat} {xs : List α}

theorem More.weighed (hpart : Weighs cost part) (h : More part xs n more) :
    Weighed (weightOfParts cost xs + n) more := by
  induction h with
  | nil => exact weighed_plain (by simp)
  | @cons x xs n m before inner text more hbefore hinner hx hxs ih =>
    have htext := (weighed_jsonBlanks hbefore).append (weighed_comma.append
      ((weighed_jsonBlanks hinner).append ((hpart hx).append ih)))
    have hweight : 0 + (1 + (0 + (cost x + n + (weightOfParts cost xs + m)))) =
        weightOfParts cost (x :: xs) + (n + m) := by
      rw [weightOfParts]
      omega
    rw [hweight] at htext
    simpa using htext

theorem Parts.weighed (hpart : Weighs cost part) (h : Parts part xs n inner) :
    Weighed (weightOfParts cost xs - 1 + n) inner := by
  cases h with
  | empty hblanks => exact weighed_jsonBlanks hblanks
  | @filled x xs n m k before text more closing hbefore hx hxs hclosing =>
    have htext := (weighed_jsonBlanks hbefore).append ((hpart hx).append
      ((hxs.weighed hpart).append hclosing.weighed))
    have hweight : 0 + (cost x + n + (weightOfParts cost xs + m + k)) =
        weightOfParts cost (x :: xs) - 1 + (n + m + k) := by
      rw [weightOfParts]
      omega
    rwa [hweight] at htext

end

section

variable {shown : String → List Char} {part? : Option (Json → Nat → List Char → Prop)}
variable {value : Json → Nat → List Char → Prop}

theorem weighs_writtenMember (hshown : ∀ s, Aligned (shown s))
    (hvalue : Weighs (weight fun s ↦ mendables (shown s)) value) :
    Weighs (fun member ↦ mendables (shown member.1) + weight (fun s ↦ mendables (shown s)) member.2)
      (WrittenMember shown value) := by
  rintro _ n _ (@⟨key, v, _, before, inner, text, hbefore, hinner, hv⟩)
  have hquote : Weighed 0 ['"'] := weighed_plain (by decide)
  have hcolon : Weighed 0 [':'] := weighed_plain (by decide)
  have hkey : Weighed (mendables (shown key)) (shown key) := ⟨hshown key, rfl⟩
  have htext := hquote.append (hkey.append (hquote.append ((weighed_jsonBlanks hbefore).append
    (hcolon.append ((weighed_jsonBlanks hinner).append (hvalue hv))))))
  simpa [Nat.add_assoc] using htext

theorem weighs_writtenWith (hshown : ∀ s, Aligned (shown s))
    (hpart : ∀ part ∈ part?, Weighs (weight fun s ↦ mendables (shown s)) part) :
    Weighs (weight fun s ↦ mendables (shown s)) (WrittenWith shown part?) := by
  intro v n text h
  cases h with
  | null | yes | no => exact weighed_plain (by decide)
  | @number number =>
    refine weighed_plain fun c hc ↦ ?_
    have hnumber := isNumberChar_printNumber number c hc
    refine ⟨?_, isMendable_of_isNumberChar hnumber⟩
    rintro rfl
    exact absurd hnumber (by decide)
  | string s =>
    have hquote : Weighed 0 ['"'] := weighed_plain (by decide)
    have hs : Weighed (mendables (shown s)) (shown s) := ⟨hshown s, rfl⟩
    simpa [weight] using hquote.append (hs.append hquote)
  | array hsome hinner =>
    have hopening : Weighed 0 ['['] := weighed_plain (by decide)
    have hclosing : Weighed 0 [']'] := weighed_plain (by decide)
    rw [weight_array]
    simpa using hopening.append ((hinner.weighed (hpart _ hsome)).append hclosing)
  | object hsome _ hinner =>
    have hopening : Weighed 0 ['{'] := weighed_plain (by decide)
    have hclosing : Weighed 0 ['}'] := weighed_plain (by decide)
    have hmembers := hinner.weighed (weighs_writtenMember hshown (hpart _ hsome))
    rw [weight_object]
    simpa using hopening.append (hmembers.append hclosing)

theorem weighs_written (hshown : ∀ s, Aligned (shown s)) (depth : Nat) :
    Weighs (weight fun s ↦ mendables (shown s)) (Written shown depth) := by
  induction depth with
  | zero => exact weighs_writtenWith hshown (by simp)
  | succ depth ih =>
    refine weighs_writtenWith hshown fun part hpart ↦ ?_
    obtain rfl := Option.some.inj hpart
    exact ih

end

end WebScaffold.Json
