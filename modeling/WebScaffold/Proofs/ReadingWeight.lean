import WebScaffold.Proofs.Weight

/-!
# What reading may find

Nothing that is read from a text weighs more than the text: each comma and each typographic quote in
a value comes from one in the text, as long as no escape spells one.
-/

namespace WebScaffold.Json

variable {α : Type}

/-- A reader finds no more in a text than it takes off it, and takes no escape apart. -/
def Thrifty (cost : α → Nat) (read : List Char → Attempt (α × List Char)) : Prop :=
  ∀ ⦃cs x rest⦄, Aligned cs → read cs = .ok (x, rest) →
    Aligned rest ∧ cost x + mendables rest ≤ mendables cs

/-! ## Blanks, words and numbers -/

section

variable {c : Char} {cs front rest more : List Char}

theorem Aligned.behind (hcs : Aligned (front ++ rest)) (hfront : '\\' ∉ front) :
    Aligned rest ∧ mendables rest ≤ mendables (front ++ rest) := by
  refine ⟨hcs.of_append hfront, ?_⟩
  rw [mendables_append]
  exact Nat.le_add_left _ _

theorem Aligned.behind_cons (hcs : Aligned (c :: rest)) (hc : '\\' ≠ c) :
    Aligned rest ∧ mendables rest ≤ mendables (c :: rest) :=
  @Aligned.behind [c] rest hcs (by simpa using hc)

theorem Aligned.skipBlanks (hcs : Aligned cs) (h : Json.skipBlanks cs = more) :
    Aligned more ∧ mendables more ≤ mendables cs := by
  obtain ⟨blanks, hblanks, hshape⟩ := exists_of_skipBlanks cs
  have hfront : '\\' ∉ blanks := fun hmem ↦ absurd (hblanks _ hmem) (by decide)
  rw [h] at hshape
  subst hshape
  exact hcs.behind hfront

theorem Digits.backslash_notMem {ds : List Char} (h : Digits ds) : '\\' ∉ ds :=
  fun hmem ↦ absurd (h.2 _ hmem) (by decide)

theorem exists_front_of_readNumber {negative : Bool} {n : JsonNumber}
    (h : readNumber negative cs = .ok (n, rest)) : ∃ front, '\\' ∉ front ∧ cs = front ++ rest := by
  obtain ⟨whole, fraction, exponent, behindWhole, behind, hwhole, hfraction, hexponent, -⟩ :=
    exists_of_readNumber h
  obtain ⟨hdigits, -, rfl, -⟩ := readWhole_eq_ok_iff.1 hwhole
  obtain ⟨second, hsecond, rfl⟩ : ∃ second, '\\' ∉ second ∧ behindWhole = second ++ behind := by
    rcases readFraction_eq_ok_iff.1 hfraction with ⟨-, rfl, -⟩ | ⟨ds, -, hds, rfl, -⟩
    · exact ⟨[], by simp, rfl⟩
    · exact ⟨'.' :: ds, by simpa using hds.backslash_notMem, rfl⟩
  obtain ⟨third, hthird, rfl⟩ : ∃ third, '\\' ∉ third ∧ behind = third ++ rest := by
    rcases readExponent_eq_ok_iff.1 hexponent with
      ⟨-, rfl, -⟩ | ⟨mark, sign, down, ds, hmark, hsign, -, hds, rfl, -⟩
    · exact ⟨[], by simp, rfl⟩
    · refine ⟨mark :: (sign ++ ds), ?_, by simp⟩
      have hds := hds.backslash_notMem
      rcases hmark with rfl | rfl <;> cases hsign <;> simpa using hds
  exact ⟨whole ++ (second ++ third), by simp [hdigits.backslash_notMem, hsecond, hthird], by simp⟩

/-! ## Strings -/

theorem Aligned.exists_escape (h : Aligned ('\\' :: cs)) :
    ∃ c spelled behind, isMendable c = false ∧ cs = spelled ++ behind ∧
      (∀ rest, readEscape (spelled ++ rest) = .ok (c, rest)) ∧ Aligned behind := by
  cases h with
  | plain hc => exact absurd rfl hc
  | escape hc _ hread hbehind => exact ⟨_, _, _, hc, rfl, hread, hbehind⟩

/-- The characters of a string are taken one by one, and an escape gives none that mending may
change. -/
theorem thrifty_readChars (fuel : Nat) : Thrifty mendables (readChars fuel) := by
  intro cs chars rest hcs h
  induction fuel generalizing cs chars with
  | zero => cases h
  | succ fuel ih =>
    rcases readChars_succ_eq_ok_iff.1 h with ⟨rfl, rfl⟩ | ⟨x, behind, tail, hx, htail, rfl⟩
    · simpa [mendables] using hcs.behind_cons (by decide)
    · cases hx with
      | plain _ hbackslash _ =>
        obtain ⟨hrest, hle⟩ := ih (hcs.behind_cons (Ne.symm hbackslash)).1 htail
        refine ⟨hrest, ?_⟩
        rw [mendables_cons x tail, mendables_cons x behind]
        omega
      | escaped hescape =>
        obtain ⟨d, spelled, after, hd, rfl, hread, hafter⟩ := hcs.exists_escape
        obtain ⟨rfl, rfl⟩ := Prod.mk.inj (Except.ok.inj ((hread after).symm.trans hescape))
        obtain ⟨hrest, hle⟩ := ih hafter htail
        refine ⟨hrest, ?_⟩
        have hzero := mendables_eq_zero (List.forall_mem_singleton.2 hd)
        rw [mendables_cons d, mendables_cons '\\', mendables_append]
        omega

theorem thrifty_readString : Thrifty mendablesOf readString := by
  intro cs s rest hcs h
  obtain ⟨chars, hchars, rfl⟩ := (readThen_eq_ok_iff String.ofList).1 h
  simpa [mendablesOf] using thrifty_readChars _ hcs hchars

end

/-! ## Lists and objects -/

section

variable {read : List Char → Attempt (α × List Char)} {closer : Char} {cost : α → Nat}
variable {readMore : Nat → List Char → Attempt (List α × List Char)}
variable {readParts : List Char → Attempt (List α × List Char)}

theorem Loops.backslash_ne (hloops : Loops read closer readMore readParts) : '\\' ≠ closer := by
  rintro rfl
  cases hloops.isCloser

theorem Loops.thrifty_readMore (hloops : Loops read closer readMore readParts)
    (hread : Thrifty cost read) (fuel : Nat) : Thrifty (weightOfParts cost) (readMore fuel) := by
  intro cs xs rest hcs h
  induction fuel generalizing cs xs with
  | zero => exact absurd h hloops.stuck
  | succ fuel ih =>
    rcases hloops.more.1 h with
      ⟨hend, rfl⟩ | ⟨behind, c, more, x, after, tail, hcomma, hmore, -, hx, htail, rfl⟩
    · obtain ⟨haligned, hle⟩ := hcs.skipBlanks hend
      obtain ⟨hrest, hle'⟩ := haligned.behind_cons hloops.backslash_ne
      exact ⟨hrest, by simp only [weightOfParts]; omega⟩
    · obtain ⟨haligned, hle⟩ := hcs.skipBlanks hcomma
      obtain ⟨hbehind, -⟩ := haligned.behind_cons (by decide)
      have hone : mendables (',' :: behind) = 1 + mendables behind := mendables_cons ',' behind
      obtain ⟨hmore', hle'⟩ := hbehind.skipBlanks hmore
      obtain ⟨hafter, hle''⟩ := hread hmore' hx
      obtain ⟨hrest, hle'''⟩ := ih hafter htail
      exact ⟨hrest, by rw [weightOfParts]; omega⟩

theorem Loops.thrifty_readParts (hloops : Loops read closer readMore readParts)
    (hread : Thrifty cost read) : Thrifty (fun xs ↦ weightOfParts cost xs - 1) readParts := by
  intro cs xs rest hcs h
  rcases hloops.parts.1 h with ⟨hend, rfl⟩ | ⟨c, more, x, after, tail, hmore, -, hx, htail, rfl⟩
  · obtain ⟨haligned, hle⟩ := hcs.skipBlanks hend
    obtain ⟨hrest, hle'⟩ := haligned.behind_cons hloops.backslash_ne
    exact ⟨hrest, by simp only [weightOfParts]; omega⟩
  · obtain ⟨hmore', hle⟩ := hcs.skipBlanks hmore
    obtain ⟨hafter, hle'⟩ := hread hmore' hx
    obtain ⟨hrest, hle''⟩ := hloops.thrifty_readMore hread _ hafter htail
    exact ⟨hrest, by simp only [weightOfParts]; omega⟩

theorem thrifty_readQuoted (hread : Thrifty cost read) :
    Thrifty (fun member ↦ mendablesOf member.1 + cost member.2) (readQuoted read) := by
  intro cs member rest hcs h
  obtain ⟨more, rfl, hmember⟩ := readQuoted_eq_ok_iff.1 h
  obtain ⟨key, behindKey, marked, v, hkey, hcolon, hv, rfl⟩ := readMember_eq_ok_iff.1 hmember
  obtain ⟨hmore, hle⟩ := hcs.behind_cons (by decide)
  obtain ⟨hbehindKey, hle'⟩ := thrifty_readString hmore hkey
  obtain ⟨hmark, hle''⟩ := hbehindKey.skipBlanks hcolon
  obtain ⟨hmarked, hle'''⟩ := hmark.behind_cons (by decide)
  obtain ⟨hrest, hlast⟩ := hread hmarked hv
  exact ⟨hrest, by simp only at *; omega⟩

/-- A table holds no more than the entries that it is made from. -/
theorem weightOfParts_insert_le (cost : String × α → Nat) (key : String) (value : α)
    (table : Table α) :
    weightOfParts cost (Table.insert key value table) ≤
      1 + cost (key, value) + weightOfParts cost table := by
  induction table with
  | nil => exact Nat.le_refl _
  | cons entry rest ih =>
    obtain ⟨k, v⟩ := entry
    rw [Table.insert_cons]
    split_ifs <;> simp only [weightOfParts] <;> omega

theorem weightOfParts_insertAll_le (cost : String × α → Nat) (entries : List (String × α))
    (table : Table α) :
    weightOfParts cost (Table.insertAll table entries) ≤
      weightOfParts cost table + weightOfParts cost entries := by
  induction entries generalizing table with
  | nil => exact Nat.le_add_right _ _
  | cons entry rest ih =>
    obtain ⟨key, value⟩ := entry
    have hinsert := weightOfParts_insert_le cost key value table
    have hrest : weightOfParts cost (Table.insertAll table ((key, value) :: rest)) ≤ _ :=
      ih (Table.insert key value table)
    rw [weightOfParts]
    omega

end

/-! ## Values -/

theorem thrifty_readValueWith {part? : Option (List Char → Attempt (Json × List Char))}
    (hpart : ∀ part ∈ part?, Thrifty (weight mendablesOf) part) :
    Thrifty (weight mendablesOf) (readValueWith part?) := by
  intro cs v rest hcs h
  obtain ⟨c, more, hmore, hreads⟩ := readValueWith_eq_ok_iff.1 h
  obtain ⟨haligned, hle⟩ := hcs.skipBlanks hmore
  have hscalar {front : List Char} (hfront : '\\' ∉ front) (hshape : c :: more = front ++ rest)
      (hweight : weight mendablesOf v = 0) :
      Aligned rest ∧ weight mendablesOf v + mendables rest ≤ mendables cs := by
    rw [hshape] at haligned hle
    obtain ⟨hrest, hle'⟩ := haligned.behind hfront
    exact ⟨hrest, by omega⟩
  cases hreads with
  | null h =>
    have hshape := congrArg (List.cons 'n') (readIdent_eq_ok_iff.1 h)
    exact @hscalar ['n', 'u', 'l', 'l'] (by decide) hshape rfl
  | yes h =>
    have hshape := congrArg (List.cons 't') (readIdent_eq_ok_iff.1 h)
    exact @hscalar ['t', 'r', 'u', 'e'] (by decide) hshape rfl
  | no h =>
    have hshape := congrArg (List.cons 'f') (readIdent_eq_ok_iff.1 h)
    exact @hscalar ['f', 'a', 'l', 's', 'e'] (by decide) hshape rfl
  | negative h =>
    obtain ⟨front, hfront, rfl⟩ := exists_front_of_readNumber h
    exact @hscalar ('-' :: front) (by simpa using hfront) rfl rfl
  | digits hc h =>
    obtain ⟨front, hfront, hshape⟩ := exists_front_of_readNumber h
    exact hscalar hfront hshape rfl
  | string h =>
    obtain ⟨hmore', hle'⟩ := haligned.behind_cons (by decide)
    obtain ⟨hrest, hle''⟩ := thrifty_readString hmore' h
    exact ⟨hrest, by rw [weight]; omega⟩
  | array hsome h =>
    obtain ⟨hmore', hle'⟩ := haligned.behind_cons (by decide)
    obtain ⟨hrest, hle''⟩ := (loops_items _).thrifty_readParts (hpart _ hsome) hmore' h
    refine ⟨hrest, ?_⟩
    beta_reduce at hle''
    rw [weight_array]
    omega
  | @object part _ _ members hsome h =>
    obtain ⟨hmore', hle'⟩ := haligned.behind_cons (by decide)
    obtain ⟨hrest, hle''⟩ := (loops_members _).thrifty_readParts
      (thrifty_readQuoted (hpart _ hsome)) hmore' h
    refine ⟨hrest, ?_⟩
    have htable := weightOfParts_insertAll_le (fun member : String × Json ↦
      mendablesOf member.1 + weight mendablesOf member.2) members []
    rw [show weightOfParts _ [] = 0 from rfl, Nat.zero_add] at htable
    beta_reduce at hle''
    rw [ofMembers, Table.ofList, weight_object]
    omega

theorem thrifty_readValue (depth : Nat) :
    Thrifty (weight mendablesOf) (readValue depth) := by
  induction depth with
  | zero => exact thrifty_readValueWith (by simp)
  | succ depth ih =>
    refine thrifty_readValueWith fun part hpart ↦ ?_
    obtain rfl := Option.some.inj hpart
    exact ih

/-- A value weighs no more than the text it is read from. -/
theorem weight_le_of_readAll {cs : List Char} {v : Json} (hcs : Aligned cs)
    (h : readAll cs = .ok v) : weight mendablesOf v ≤ mendables cs := by
  obtain ⟨rest, hvalue, -⟩ := expectEnd_eq_ok_iff.1 h
  obtain ⟨-, hle⟩ := thrifty_readValue nestingLimit hcs hvalue
  omega

end WebScaffold.Json
