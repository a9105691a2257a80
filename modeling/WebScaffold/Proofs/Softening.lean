import WebScaffold.Proofs.Written

/-!
# Mending written texts

Where the commas too many are dropped out of a text in which a value is written, the value is left
as it was outside its strings. Inside of them the same is done as if they were text of their own.
-/

namespace WebScaffold.Json

/-! ## Dropping and straightening -/

section

variable {c d : Char} {cs rest blanks text text' more more' : List Char} {dropping : Bool}

/-- Whether mending may change a character. -/
def isMendable (c : Char) : Bool :=
  c == ',' || straightQuote c != c

theorem isMendable_eq_false_iff : isMendable c = false ↔ c ≠ ',' ∧ straightQuote c = c := by
  simp [isMendable]

/-- A kind of characters without commas and typographic quotes is left alone. -/
theorem isMendable_eq_false_of (p : Char → Prop)
    (hp : ∀ d ∈ [',', '\u201c', '\u201d', '\u2018', '\u2019'], ¬p d) (h : p c) :
    isMendable c = false := by
  simp only [List.forall_mem_cons] at hp
  obtain ⟨hcomma, hleft, hright, hsingleLeft, hsingleRight, -⟩ := hp
  refine isMendable_eq_false_iff.2 ⟨?_, if_neg ?_⟩
  · rintro rfl
    exact hcomma h
  · rintro (rfl | rfl | rfl | rfl) <;> contradiction

theorem dropTrailingCommas_cons (hc : c ≠ ',') (hblank : dropping = true → Text.isBlank c = false)
    (cs : List Char) :
    dropTrailingCommas dropping (c :: cs) = c :: dropTrailingCommas false cs := by
  have hkept : (dropping && Text.isBlank c) = false := by
    cases dropping with
    | false => rfl
    | true => exact hblank rfl
  simp [dropTrailingCommas, hkept, hc]

theorem closesNext_append_cons (hblanks : ∀ b ∈ blanks, Text.isBlank b)
    (hc : Text.isBlank c = false) (rest : List Char) :
    closesNext (blanks ++ c :: rest) = isCloser c := by
  unfold closesNext
  rw [List.dropWhile_append_of_pos hblanks]
  simp [hc]

theorem softened_comma (h : closesNext cs = false) : softened (',' :: cs) = ',' :: softened cs := by
  have hkept : dropTrailingCommas false (',' :: cs) = ',' :: dropTrailingCommas false cs := by
    simp [dropTrailingCommas, h]
  rw [softened, hkept]
  rfl

theorem dropTrailingCommas_blanks (hblanks : ∀ b ∈ blanks, Text.isBlank b) (cs : List Char) :
    dropTrailingCommas true (blanks ++ cs) = dropTrailingCommas true cs := by
  induction blanks with
  | nil => rfl
  | cons b blanks ih =>
    obtain ⟨hb, hblanks⟩ := List.forall_mem_cons.1 hblanks
    simp [dropTrailingCommas, hb, ih hblanks]

/-- Whatever comes behind a text, mending does the same to the text. -/
def Softens (text text' : List Char) : Prop :=
  ∀ rest, softened (text ++ rest) = text' ++ softened rest

theorem Softens.append (htext : Softens text text') (hmore : Softens more more') :
    Softens (text ++ more) (text' ++ more') := by
  intro rest
  rw [List.append_assoc, htext, hmore, List.append_assoc]

theorem Softens.eq (h : Softens text text') : softened text = text' := by
  have hnil := h []
  rwa [List.append_nil, show softened [] = [] from rfl, List.append_nil] at hnil

theorem softens_of_plain (h : ∀ c ∈ text, isMendable c = false) : Softens text text := by
  intro rest
  induction text with
  | nil => rfl
  | cons c text ih =>
    obtain ⟨hc, htext⟩ := List.forall_mem_cons.1 h
    obtain ⟨hcomma, hquote⟩ := isMendable_eq_false_iff.1 hc
    have hrest := ih htext
    unfold softened at hrest ⊢
    rw [List.cons_append, dropTrailingCommas_cons hcomma (by simp), List.map_cons, hrest, hquote,
      List.cons_append]

theorem softens_singleton (h : isMendable c = false) : Softens [c] [c] :=
  softens_of_plain (List.forall_mem_singleton.2 h)

theorem isMendable_of_isNumberChar (h : IsNumberChar c) : isMendable c = false :=
  isMendable_eq_false_of IsNumberChar (by decide) h

theorem isMendable_of_isJsonBlank (h : isJsonBlank c) : isMendable c = false :=
  isMendable_eq_false_of (isJsonBlank ·) (by decide) h

theorem plain_of_isCloser (h : isCloser c) : Text.isBlank c = false ∧ isMendable c = false := by
  rcases isCloser_iff.1 h with rfl | rfl <;> decide

theorem softens_blanks (h : ∀ b ∈ blanks, isJsonBlank b) : Softens blanks blanks :=
  softens_of_plain fun b hb ↦ isMendable_of_isJsonBlank (h b hb)

/-- A comma stays in front of what does not begin with a closing bracket. -/
theorem softens_comma (hblanks : ∀ b ∈ blanks, isJsonBlank b) (hstarts : Starts text)
    (h : Softens text text') : Softens (',' :: (blanks ++ text)) (',' :: (blanks ++ text')) := by
  intro rest
  obtain ⟨c, more, rfl, hc, hcloser⟩ := hstarts
  have hopen : closesNext (blanks ++ (c :: more) ++ rest) = false := by
    rw [List.append_assoc, List.cons_append,
      closesNext_append_cons (fun b hb ↦ isBlank_of_isJsonBlank (hblanks b hb)) hc, hcloser]
  rw [List.cons_append, softened_comma hopen, (softens_blanks hblanks).append h rest,
    List.cons_append]

/-- A comma goes in front of a closing bracket, with the white space behind it. -/
theorem softens_closing_comma (hblanks : ∀ b ∈ blanks, Text.isBlank b) (hc : isCloser c) :
    Softens (',' :: (blanks ++ [c])) [c] := by
  intro rest
  obtain ⟨hblank, hplain⟩ := plain_of_isCloser hc
  obtain ⟨hcomma, hquote⟩ := isMendable_eq_false_iff.1 hplain
  have hcloses : closesNext (blanks ++ c :: rest) = true := by
    rw [closesNext_append_cons hblanks hblank, hc]
  have hdropped : dropTrailingCommas false (',' :: (blanks ++ c :: rest)) =
      dropTrailingCommas true (blanks ++ c :: rest) := by
    simp [dropTrailingCommas, hcloses]
  have hshape : ',' :: (blanks ++ [c]) ++ rest = ',' :: (blanks ++ c :: rest) := by simp
  rw [hshape, softened, hdropped, dropTrailingCommas_blanks hblanks,
    dropTrailingCommas_cons hcomma fun _ ↦ hblank, List.map_cons, hquote]
  rfl

theorem closesNext_append_quote (cs rest : List Char) :
    closesNext (cs ++ '"' :: rest) = closesNext cs := by
  unfold closesNext
  rw [List.dropWhile_append]
  split_ifs with hempty
  · rw [List.isEmpty_iff.1 hempty]
    rfl
  · cases hcs : cs.dropWhile Text.isBlank with
    | nil => simp [hcs] at hempty
    | cons c more => rfl

theorem dropTrailingCommas_append_quote (dropping : Bool) (cs rest : List Char) :
    dropTrailingCommas dropping (cs ++ '"' :: rest) =
      dropTrailingCommas dropping cs ++ '"' :: dropTrailingCommas false rest := by
  induction cs generalizing dropping with
  | nil => exact dropTrailingCommas_cons (by decide) (fun _ ↦ rfl) rest
  | cons c cs ih =>
    simp only [List.cons_append, dropTrailingCommas, closesNext_append_quote, ih]
    split_ifs <;> rfl

/-- What is done to a text in quotes is done to the text. -/
theorem softens_quoted (cs : List Char) : Softens (cs ++ ['"']) (softened cs ++ ['"']) := by
  intro rest
  have hshape : cs ++ ['"'] ++ rest = cs ++ '"' :: rest := by simp
  simp only [hshape, softened, dropTrailingCommas_append_quote, List.map_append, List.map_cons,
    List.append_assoc, List.singleton_append]
  rfl

end

/-! ## Written texts -/

section

variable {α : Type} {part part' : α → Nat → List Char → Prop}
variable {xs : List α} {n k : Nat} {c : Char} {text more closing inner : List Char}

/-- The texts of a kind are mended to texts of another kind, with no comma too many. -/
def Mends (part part' : α → Nat → List Char → Prop) : Prop :=
  ∀ ⦃x n text⦄, part x n text → Starts text ∧ ∃ text', Softens text text' ∧ part' x 0 text'

theorem Closing.softens (h : Closing k closing) (hc : isCloser c) :
    ∃ closing', Softens (closing ++ [c]) (closing' ++ [c]) ∧ Closing 0 closing' := by
  have hcloser := softens_singleton (plain_of_isCloser hc).2
  cases h with
  | blanks hblanks => exact ⟨closing, (softens_blanks hblanks).append hcloser, .blanks hblanks⟩
  | @comma before after hbefore hafter =>
    refine ⟨before, ?_, .blanks hbefore⟩
    rw [List.append_assoc]
    exact (softens_blanks hbefore).append (softens_closing_comma hafter hc)

theorem More.softens (hpart : Mends part part') (h : More part xs n more) :
    ∃ more', Softens more more' ∧ More part' xs 0 more' := by
  induction h with
  | nil => exact ⟨[], fun _ ↦ rfl, .nil⟩
  | cons hbefore hinner hx hxs ih =>
    obtain ⟨hstarts, text', htext, hx'⟩ := hpart hx
    obtain ⟨more', hmore, hxs'⟩ := ih
    refine ⟨_, ?_, .cons hbefore hinner hx' hxs'⟩
    simpa using (softens_blanks hbefore).append ((softens_comma hinner hstarts htext).append hmore)

theorem Parts.softens (hpart : Mends part part') (hc : isCloser c) (h : Parts part xs n inner) :
    ∃ inner', Softens (inner ++ [c]) (inner' ++ [c]) ∧ Parts part' xs 0 inner' := by
  cases h with
  | empty hblanks =>
    have hcloser := softens_singleton (plain_of_isCloser hc).2
    exact ⟨inner, (softens_blanks hblanks).append hcloser, .empty hblanks⟩
  | filled hbefore hx hxs hclosing =>
    obtain ⟨hstarts, text', htext, hx'⟩ := hpart hx
    obtain ⟨more', hmore, hxs'⟩ := hxs.softens hpart
    obtain ⟨closing', hclosing, hclosing'⟩ := hclosing.softens hc
    refine ⟨_, ?_, .filled hbefore hx' hxs' hclosing'⟩
    simpa using (softens_blanks hbefore).append (htext.append (hmore.append hclosing))

end

section

variable {shown : String → List Char} {part? : Option (Json → Nat → List Char → Prop)}
variable {value value' : Json → Nat → List Char → Prop}

theorem mends_writtenMember (hvalue : Mends value value') :
    Mends (WrittenMember shown value) (WrittenMember (softened ∘ shown) value') := by
  rintro _ n _ hmember
  refine ⟨hmember.starts, ?_⟩
  obtain @⟨key, _, _, before, inner, text, hbefore, hinner, hv⟩ := hmember
  obtain ⟨-, text', htext, hv'⟩ := hvalue hv
  refine ⟨_, ?_, .mk hbefore hinner hv'⟩
  have hquote : Softens ['"'] ['"'] := softens_singleton (by decide)
  have hcolon : Softens [':'] [':'] := softens_singleton (by decide)
  simpa using hquote.append ((softens_quoted (shown key)).append ((softens_blanks hbefore).append
    (hcolon.append ((softens_blanks hinner).append htext))))

theorem mends_writtenWith {part?' : Option (Json → Nat → List Char → Prop)}
    (hpart : ∀ part ∈ part?, ∃ part', part?' = some part' ∧ Mends part part') :
    Mends (WrittenWith shown part?) (WrittenWith (softened ∘ shown) part?') := by
  intro v n text h
  refine ⟨h.starts, ?_⟩
  cases h with
  | null => exact ⟨_, softens_of_plain (by decide), .null⟩
  | yes => exact ⟨_, softens_of_plain (by decide), .yes⟩
  | no => exact ⟨_, softens_of_plain (by decide), .no⟩
  | @number number hread =>
    have hplain := fun c hc ↦ isMendable_of_isNumberChar (isNumberChar_printNumber number c hc)
    exact ⟨_, softens_of_plain hplain, .number hread⟩
  | string s =>
    refine ⟨_, ?_, .string s⟩
    exact (softens_singleton (by decide : isMendable '"' = false)).append (softens_quoted (shown s))
  | array hsome hinner =>
    obtain ⟨part', rfl, hmends⟩ := hpart _ hsome
    obtain ⟨inner', hsoftens, hinner'⟩ := hinner.softens hmends (by decide : isCloser ']')
    exact ⟨_, (softens_singleton (by decide : isMendable '[' = false)).append hsoftens,
      .array rfl hinner'⟩
  | object hsome hincreasing hinner =>
    obtain ⟨part', rfl, hmends⟩ := hpart _ hsome
    obtain ⟨inner', hsoftens, hinner'⟩ :=
      hinner.softens (mends_writtenMember hmends) (by decide : isCloser '}')
    exact ⟨_, (softens_singleton (by decide : isMendable '{' = false)).append hsoftens,
      .object rfl hincreasing hinner'⟩

theorem mends_written (shown : String → List Char) (depth : Nat) :
    Mends (Written shown depth) (Written (softened ∘ shown) depth) := by
  induction depth with
  | zero => exact mends_writtenWith (by simp)
  | succ depth ih =>
    refine mends_writtenWith fun part hpart ↦ ?_
    obtain rfl := Option.some.inj hpart
    exact ⟨_, rfl, ih⟩

/-- A text is mended to one with no comma too many, in which the strings are mended as well. -/
theorem Written.softened {depth added : Nat} {v : Json} {text : List Char}
    (h : Written shown depth v added text) :
    Written (Json.softened ∘ shown) depth v 0 (Json.softened text) := by
  obtain ⟨-, text', htext, h'⟩ := mends_written shown depth h
  rwa [htext.eq]

end

end WebScaffold.Json
