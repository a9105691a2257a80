import WebScaffold.Json.Loose
import WebScaffold.Proofs.Taking

/-!
# What a Json reader takes for a value

Lists, objects and values. A value begins and ends with characters that are no blanks, and only
blanks stand around it in a text that spells it. Cut free of them it is read as before.
-/

namespace WebScaffold.Json

variable {α : Type}

/-! ## Parts between brackets -/

section

variable {found : Attempt (α × List Char)} {c : Char} {x : α}

theorem isCloser_iff : isCloser c ↔ c = '}' ∨ c = ']' := by
  simp [isCloser]

theorem not_isJsonBlank_of_isCloser (h : isCloser c) : isJsonBlank c = false := by
  rcases isCloser_iff.1 h with rfl | rfl <;> rfl

theorem solid_of_isCloser (h : isCloser c) : Solid [c] := by
  rcases isCloser_iff.1 h with rfl | rfl <;> exact solid_singleton (by decide)

/-- How parts are read up to a closing bracket: all of them, and those behind one that was read.
Lists and objects are read alike but for the bracket and what a part is. -/
structure Loops (read : List Char → Attempt (α × List Char)) (closer : Char)
    (readMore : Nat → List Char → Attempt (List α × List Char))
    (readParts : List Char → Attempt (List α × List Char)) : Prop where
  isCloser : isCloser closer
  stuck {cs : List Char} {found : List α × List Char} : readMore 0 cs ≠ .ok found
  more {fuel : Nat} {cs rest : List Char} {xs : List α} :
    readMore (fuel + 1) cs = .ok (xs, rest) ↔
      (skipBlanks cs = closer :: rest ∧ xs = []) ∨
        ∃ behind c more x after tail, skipBlanks cs = ',' :: behind ∧
          skipBlanks behind = c :: more ∧ c ≠ closer ∧ read (c :: more) = .ok (x, after) ∧
            readMore fuel after = .ok (tail, rest) ∧ xs = x :: tail
  parts {cs rest : List Char} {xs : List α} :
    readParts cs = .ok (xs, rest) ↔
      (skipBlanks cs = closer :: rest ∧ xs = []) ∨
        ∃ c more x after tail, skipBlanks cs = c :: more ∧ c ≠ closer ∧
          read (c :: more) = .ok (x, after) ∧
            readMore (after.length + 1) after = .ok (tail, rest) ∧ xs = x :: tail

theorem expectEnd_eq_ok_iff :
    expectEnd found = .ok x ↔ ∃ rest, found = .ok (x, rest) ∧ skipBlanks rest = [] := by
  constructor
  · intro h
    obtain ⟨⟨y, rest⟩, hfound, hend⟩ := bind_eq_ok_iff.1 h
    simp only at hend
    split at hend
    · rename_i hrest
      obtain rfl := Except.ok.inj hend
      exact ⟨rest, hfound, hrest⟩
    · cases hend
  · rintro ⟨rest, hfound, hrest⟩
    refine bind_eq_ok_iff.2 ⟨(x, rest), hfound, ?_⟩
    simp only [hrest]
    rfl

end

section

variable {read : List Char → Attempt (α × List Char)} {closer : Char}
variable {readMore : Nat → List Char → Attempt (List α × List Char)}
variable {readParts : List Char → Attempt (List α × List Char)}
variable {fuel : Nat} {cs rest : List Char} {xs : List α}

/-- The front of a reader that begins with a given character. -/
theorem Takes.exists_behind (hread : Takes Solid read) {c : Char} {more after : List Char} {x : α}
    (h : read (c :: more) = .ok (x, after)) :
    ∃ front, Solid (c :: front) ∧ more = front ++ after ∧
      ∀ other, Meets after other → read (c :: (front ++ other)) = .ok (x, other) := by
  obtain ⟨front, hfront, hcs, hsame⟩ := hread h
  obtain ⟨d, front, rfl⟩ := List.exists_cons_of_ne_nil hfront.ne_nil
  obtain ⟨rfl, hmore⟩ := List.cons.inj hcs
  exact ⟨front, hfront, hmore, hsame⟩

/-- The parts behind one that was read need no more fuel than there are characters up to the closing
bracket. -/
theorem Loops.exists_of_readMore (hloops : Loops read closer readMore readParts)
    (hread : Takes Solid read) (h : readMore fuel cs = .ok (xs, rest)) :
    ∃ front, Solid front ∧ cs = front ++ rest ∧ ∀ enough other, front.length ≤ enough →
      readMore enough (front ++ other) = .ok (xs, other) := by
  induction fuel generalizing cs xs with
  | zero => exact absurd h hloops.stuck
  | succ fuel ih =>
    rcases hloops.more.1 h with
      ⟨hend, rfl⟩ | ⟨behind, c, more, x, after, tail, hcomma, hmore, hclose, hx, htail, rfl⟩
    · obtain ⟨blanks, hblanks, hbracket, rfl⟩ := exists_of_skipBlanks_eq_cons hend
      have hsolid : Solid (blanks ++ [closer]) := (solid_of_isCloser hloops.isCloser).append
      refine ⟨_, hsolid, by simp, fun enough other henough ↦ ?_⟩
      obtain ⟨enough, rfl⟩ := hsolid.exists_succ henough
      rw [List.append_assoc]
      exact hloops.more.2 (.inl ⟨skipBlanks_append_cons hblanks hbracket _, rfl⟩)
    · obtain ⟨blanks, hblanks, hseparator, rfl⟩ := exists_of_skipBlanks_eq_cons hcomma
      obtain ⟨inner, hinner, hc, rfl⟩ := exists_of_skipBlanks_eq_cons hmore
      obtain ⟨front, hfront, rfl, hsame⟩ := hread.exists_behind hx
      obtain ⟨back, hback, rfl, hsame'⟩ := ih htail
      have hsolid : Solid (blanks ++ ',' :: (inner ++ c :: (front ++ back))) :=
        hback.append.cons.append.cons.append
      refine ⟨_, hsolid, by simp, fun enough other henough ↦ ?_⟩
      obtain ⟨enough, rfl⟩ := hsolid.exists_succ henough
      have hlength : back.length ≤ enough := by
        simp only [List.length_append, List.length_cons] at henough
        omega
      refine hloops.more.2 (.inr ⟨inner ++ c :: (front ++ (back ++ other)), c,
        front ++ (back ++ other), x, back ++ other, tail, ?_, ?_, hclose,
        hsame _ (meets_of_ne_nil hback.ne_nil), hsame' enough other hlength, rfl⟩)
      · simpa using skipBlanks_append_cons hblanks hseparator _
      · exact skipBlanks_append_cons hinner hc _

theorem Loops.takes_readParts (hloops : Loops read closer readMore readParts)
    (hread : Takes Solid read) : Takes Solid readParts := by
  intro cs xs rest h
  rcases hloops.parts.1 h with
    ⟨hend, rfl⟩ | ⟨c, more, x, after, tail, hmore, hclose, hx, htail, rfl⟩
  · obtain ⟨blanks, hblanks, hbracket, rfl⟩ := exists_of_skipBlanks_eq_cons hend
    have hsolid : Solid (blanks ++ [closer]) := (solid_of_isCloser hloops.isCloser).append
    refine ⟨_, hsolid, by simp, fun other _ ↦ ?_⟩
    rw [List.append_assoc]
    exact hloops.parts.2 (.inl ⟨skipBlanks_append_cons hblanks hbracket _, rfl⟩)
  · obtain ⟨blanks, hblanks, hc, rfl⟩ := exists_of_skipBlanks_eq_cons hmore
    obtain ⟨front, hfront, rfl, hsame⟩ := hread.exists_behind hx
    obtain ⟨back, hback, rfl, hsame'⟩ := hloops.exists_of_readMore hread htail
    refine ⟨blanks ++ c :: (front ++ back), hback.append.cons.append, by simp, fun other _ ↦ ?_⟩
    refine hloops.parts.2 (.inr ⟨c, front ++ (back ++ other), x, back ++ other, tail, ?_,
      hclose, hsame _ (meets_of_ne_nil hback.ne_nil), hsame' _ _ ?_, rfl⟩)
    · simpa using skipBlanks_append_cons hblanks hc _
    · rw [List.length_append]
      omega

end

/-! ## Lists -/

section

variable {item : List Char → Attempt (α × List Char)} {fuel : Nat}
variable {cs rest : List Char} {xs : List α}

/-- Behind an item comes the end of the list, or a comma and another item. -/
theorem readMoreItems_succ_eq_ok_iff :
    readMoreItems item (fuel + 1) cs = .ok (xs, rest) ↔
      (skipBlanks cs = ']' :: rest ∧ xs = []) ∨
        ∃ behind c more x after tail, skipBlanks cs = ',' :: behind ∧
          skipBlanks behind = c :: more ∧ c ≠ ']' ∧ item (c :: more) = .ok (x, after) ∧
            readMoreItems item fuel after = .ok (tail, rest) ∧ xs = x :: tail := by
  constructor
  · intro h
    unfold readMoreItems at h
    split at h
    · cases h
    · rename_i hend
      obtain ⟨rfl, rfl⟩ := Prod.mk.inj (Except.ok.inj h)
      exact .inl ⟨hend, rfl⟩
    · rename_i behind hcomma
      split at h
      · cases h
      · cases h
      · rename_i hempty hclose
        obtain ⟨x, after, tail, hx, htail, rfl⟩ := (readCons_eq_ok_iff _).1 h
        obtain ⟨c, more, hmore⟩ := List.exists_cons_of_ne_nil hempty
        refine .inr ⟨behind, c, more, x, after, tail, hcomma, hmore, ?_, hmore ▸ hx, htail, rfl⟩
        rintro rfl
        exact hclose more hmore
    · cases h
  · rintro (⟨hend, rfl⟩ | ⟨behind, c, more, x, after, tail, hcomma, hmore, hclose, hfound⟩)
    · simp only [readMoreItems, hend]
    · unfold readMoreItems
      simp only [hcomma, hmore]
      split
      · rename_i hnil
        cases hnil
      · rename_i hbracket
        exact absurd (List.cons.inj hbracket).1 hclose
      · exact (readCons_eq_ok_iff _).2 ⟨x, after, tail, hfound⟩

theorem readItems_eq_ok_iff :
    readItems item cs = .ok (xs, rest) ↔
      (skipBlanks cs = ']' :: rest ∧ xs = []) ∨
        ∃ c more x after tail, skipBlanks cs = c :: more ∧ c ≠ ']' ∧
          item (c :: more) = .ok (x, after) ∧
            readMoreItems item (after.length + 1) after = .ok (tail, rest) ∧ xs = x :: tail := by
  constructor
  · intro h
    unfold readItems at h
    split at h
    · cases h
    · rename_i hend
      obtain ⟨rfl, rfl⟩ := Prod.mk.inj (Except.ok.inj h)
      exact .inl ⟨hend, rfl⟩
    · rename_i hempty hclose
      obtain ⟨x, after, tail, hx, htail, rfl⟩ :=
        (readCons_eq_ok_iff fun after ↦ readMoreItems item (after.length + 1) after).1 h
      obtain ⟨c, more, hmore⟩ := List.exists_cons_of_ne_nil hempty
      refine .inr ⟨c, more, x, after, tail, hmore, ?_, hmore ▸ hx, htail, rfl⟩
      rintro rfl
      exact hclose more hmore
  · rintro (⟨hend, rfl⟩ | ⟨c, more, x, after, tail, hmore, hclose, hfound⟩)
    · simp only [readItems, hend]
    · unfold readItems
      simp only [hmore]
      split
      · rename_i hnil
        cases hnil
      · rename_i hbracket
        exact absurd (List.cons.inj hbracket).1 hclose
      · exact (readCons_eq_ok_iff fun after ↦ readMoreItems item (after.length + 1) after).2
          ⟨x, after, tail, hfound⟩

theorem loops_items (item : List Char → Attempt (α × List Char)) :
    Loops item ']' (readMoreItems item) (readItems item) where
  isCloser := rfl
  stuck h := nomatch h
  more := readMoreItems_succ_eq_ok_iff
  parts := readItems_eq_ok_iff

end

/-! ## Objects -/

section

variable {value : List Char → Attempt (α × List Char)} {fuel : Nat}
variable {cs rest : List Char} {member : String × α} {members : List (String × α)}

theorem readColon_eq_ok_iff : readColon cs = .ok rest ↔ skipBlanks cs = ':' :: rest := by
  unfold readColon
  split <;> simp_all [failAt, failBehind]

theorem readMember_eq_ok_iff :
    readMember value cs = .ok (member, rest) ↔
      ∃ key behindKey marked v, readString cs = .ok (key, behindKey) ∧
        skipBlanks behindKey = ':' :: marked ∧ value marked = .ok (v, rest) ∧ member = (key, v) := by
  constructor
  · intro h
    obtain ⟨⟨key, behindKey⟩, hkey, h⟩ := bind_eq_ok_iff.1 h
    obtain ⟨marked, hcolon, h⟩ := bind_eq_ok_iff.1 h
    obtain ⟨⟨v, last⟩, hv, h⟩ := bind_eq_ok_iff.1 h
    obtain ⟨rfl, rfl⟩ := Prod.mk.inj (Except.ok.inj h)
    exact ⟨key, behindKey, marked, v, hkey, readColon_eq_ok_iff.1 hcolon, hv, rfl⟩
  · rintro ⟨key, behindKey, marked, v, hkey, hcolon, hv, rfl⟩
    exact bind_eq_ok_iff.2 ⟨_, hkey, bind_eq_ok_iff.2 ⟨marked, readColon_eq_ok_iff.2 hcolon,
      bind_eq_ok_iff.2 ⟨_, hv, rfl⟩⟩⟩

/-- A key in quotes, a colon and a value, with the opening quote. -/
def readQuoted (value : List Char → Attempt (α × List Char)) :
    List Char → Attempt ((String × α) × List Char)
  | '"' :: cs => readMember value cs
  | cs => failBehind .keyNotString cs

theorem readQuoted_eq_ok_iff :
    readQuoted value cs = .ok (member, rest) ↔
      ∃ more, cs = '"' :: more ∧ readMember value more = .ok (member, rest) := by
  unfold readQuoted
  split
  · simp
  · rename_i hquote
    refine iff_of_false (by simp [failBehind]) ?_
    rintro ⟨more, rfl, -⟩
    exact hquote more rfl

theorem takes_readQuoted (hvalue : Takes Solid value) : Takes Solid (readQuoted value) := by
  intro cs member rest h
  obtain ⟨more, rfl, hmember⟩ := readQuoted_eq_ok_iff.1 h
  obtain ⟨key, behindKey, marked, v, hkey, hcolon, hv, rfl⟩ := readMember_eq_ok_iff.1 hmember
  obtain ⟨front, hfront, rfl, hsame⟩ := takes_readString hkey
  obtain ⟨blanks, hblanks, hmark, rfl⟩ := exists_of_skipBlanks_eq_cons hcolon
  obtain ⟨back, hback, rfl, hsame'⟩ := hvalue hv
  refine ⟨'"' :: (front ++ (blanks ++ ':' :: back)), hback.cons.append.append.cons, by simp,
    fun other hother ↦ ?_⟩
  have hmeets : Meets (blanks ++ ':' :: (back ++ rest)) (blanks ++ ':' :: (back ++ other)) :=
    (meets_of_ne_nil (List.cons_ne_nil ':' back)).append blanks
  refine readQuoted_eq_ok_iff.2 ⟨front ++ (blanks ++ ':' :: (back ++ other)), by simp, ?_⟩
  exact readMember_eq_ok_iff.2 ⟨key, _, back ++ other, v, hsame _ hmeets,
    skipBlanks_append_cons hblanks hmark _, hsame' other hother, rfl⟩

/-- Behind a member comes the end of the object, or a comma and another member. -/
theorem readMoreMembers_succ_eq_ok_iff :
    readMoreMembers value (fuel + 1) cs = .ok (members, rest) ↔
      (skipBlanks cs = '}' :: rest ∧ members = []) ∨
        ∃ behind c more member after tail, skipBlanks cs = ',' :: behind ∧
          skipBlanks behind = c :: more ∧ c ≠ '}' ∧
            readQuoted value (c :: more) = .ok (member, after) ∧
              readMoreMembers value fuel after = .ok (tail, rest) ∧ members = member :: tail := by
  constructor
  · intro h
    unfold readMoreMembers at h
    split at h
    · cases h
    · rename_i hend
      obtain ⟨rfl, rfl⟩ := Prod.mk.inj (Except.ok.inj h)
      exact .inl ⟨hend, rfl⟩
    · rename_i behind hcomma
      split at h
      · cases h
      · rename_i more hmore
        obtain ⟨member, after, tail, hmember, htail, rfl⟩ := (readCons_eq_ok_iff _).1 h
        exact .inr ⟨behind, '"', more, member, after, tail, hcomma, hmore, by decide, hmember,
          htail, rfl⟩
      · cases h
      · cases h
    · cases h
  · rintro (⟨hend, rfl⟩ | ⟨behind, c, more, member, after, tail, hcomma, hmore, -, hquoted, hfound⟩)
    · simp only [readMoreMembers, hend]
    · obtain ⟨_, hquote, hmember⟩ := readQuoted_eq_ok_iff.1 hquoted
      obtain ⟨rfl, rfl⟩ := List.cons.inj hquote
      unfold readMoreMembers
      simp only [hcomma, hmore]
      exact (readCons_eq_ok_iff _).2 ⟨member, after, tail, hmember, hfound⟩

theorem readMembers_eq_ok_iff :
    readMembers value cs = .ok (members, rest) ↔
      (skipBlanks cs = '}' :: rest ∧ members = []) ∨
        ∃ c more member after tail, skipBlanks cs = c :: more ∧ c ≠ '}' ∧
          readQuoted value (c :: more) = .ok (member, after) ∧
            readMoreMembers value (after.length + 1) after = .ok (tail, rest) ∧
              members = member :: tail := by
  constructor
  · intro h
    unfold readMembers at h
    split at h
    · cases h
    · rename_i hend
      obtain ⟨rfl, rfl⟩ := Prod.mk.inj (Except.ok.inj h)
      exact .inl ⟨hend, rfl⟩
    · rename_i more hmore
      obtain ⟨member, after, tail, hmember, htail, rfl⟩ :=
        (readCons_eq_ok_iff fun after ↦ readMoreMembers value (after.length + 1) after).1 h
      exact .inr ⟨'"', more, member, after, tail, hmore, by decide, hmember, htail, rfl⟩
    · cases h
  · rintro (⟨hend, rfl⟩ | ⟨c, more, member, after, tail, hmore, -, hquoted, hfound⟩)
    · simp only [readMembers, hend]
    · obtain ⟨_, hquote, hmember⟩ := readQuoted_eq_ok_iff.1 hquoted
      obtain ⟨rfl, rfl⟩ := List.cons.inj hquote
      unfold readMembers
      simp only [hmore]
      exact (readCons_eq_ok_iff fun after ↦ readMoreMembers value (after.length + 1) after).2
        ⟨member, after, tail, hmember, hfound⟩

theorem loops_members (value : List Char → Attempt (α × List Char)) :
    Loops (readQuoted value) '}' (readMoreMembers value) (readMembers value) where
  isCloser := rfl
  stuck h := nomatch h
  more := readMoreMembers_succ_eq_ok_iff
  parts := readMembers_eq_ok_iff

end

/-! ## Values -/

section

variable {part? : Option (List Char → Attempt (Json × List Char))}
variable {c : Char} {cs more rest : List Char} {v : Json}

/-- The value that begins with a character, and the text that is left of the one behind it. -/
inductive ReadsFrom (part? : Option (List Char → Attempt (Json × List Char))) :
    Char → List Char → Json → List Char → Prop where
  | null {more rest : List Char} (h : readIdent ['u', 'l', 'l'] more = .ok rest) :
    ReadsFrom part? 'n' more .null rest
  | yes {more rest : List Char} (h : readIdent ['r', 'u', 'e'] more = .ok rest) :
    ReadsFrom part? 't' more (.bool true) rest
  | no {more rest : List Char} (h : readIdent ['a', 'l', 's', 'e'] more = .ok rest) :
    ReadsFrom part? 'f' more (.bool false) rest
  | negative {more rest : List Char} {n : JsonNumber} (h : readNumber true more = .ok (n, rest)) :
    ReadsFrom part? '-' more (.number n) rest
  | string {more rest : List Char} {text : String} (h : readString more = .ok (text, rest)) :
    ReadsFrom part? '"' more (.string text) rest
  | array {part : List Char → Attempt (Json × List Char)} {more rest : List Char}
    {items : List Json} (hpart : part? = some part) (h : readItems part more = .ok (items, rest)) :
    ReadsFrom part? '[' more (.array items) rest
  | object {part : List Char → Attempt (Json × List Char)} {more rest : List Char}
    {members : List (String × Json)} (hpart : part? = some part)
    (h : readMembers part more = .ok (members, rest)) :
    ReadsFrom part? '{' more (ofMembers members) rest
  | digits {c : Char} {more rest : List Char} {n : JsonNumber} (hc : c.isDigit)
    (h : readNumber false (c :: more) = .ok (n, rest)) : ReadsFrom part? c more (.number n) rest

theorem readValueWith_eq_ok_iff :
    readValueWith part? cs = .ok (v, rest) ↔
      ∃ c more, skipBlanks cs = c :: more ∧ ReadsFrom part? c more v rest := by
  constructor
  · intro h
    unfold readValueWith at h
    split at h
    · cases h
    · rename_i more hmore
      obtain ⟨last, hlast, h⟩ := bind_eq_ok_iff.1 h
      obtain ⟨rfl, rfl⟩ := Prod.mk.inj (Except.ok.inj h)
      exact ⟨_, more, hmore, .null hlast⟩
    · rename_i more hmore
      obtain ⟨last, hlast, h⟩ := bind_eq_ok_iff.1 h
      obtain ⟨rfl, rfl⟩ := Prod.mk.inj (Except.ok.inj h)
      exact ⟨_, more, hmore, .yes hlast⟩
    · rename_i more hmore
      obtain ⟨last, hlast, h⟩ := bind_eq_ok_iff.1 h
      obtain ⟨rfl, rfl⟩ := Prod.mk.inj (Except.ok.inj h)
      exact ⟨_, more, hmore, .no hlast⟩
    · rename_i more hmore
      obtain ⟨n, hn, rfl⟩ := (readThen_eq_ok_iff number).1 h
      exact ⟨_, more, hmore, .negative hn⟩
    · rename_i more hmore
      obtain ⟨text, htext, rfl⟩ := (readThen_eq_ok_iff string).1 h
      exact ⟨_, more, hmore, .string htext⟩
    · rename_i more hmore
      split at h
      · cases h
      · obtain ⟨items, hitems, rfl⟩ := (readThen_eq_ok_iff array).1 h
        exact ⟨_, more, hmore, .array rfl hitems⟩
    · rename_i more hmore
      split at h
      · cases h
      · obtain ⟨members, hmembers, rfl⟩ := (readThen_eq_ok_iff ofMembers).1 h
        exact ⟨_, more, hmore, .object rfl hmembers⟩
    · rename_i c more _ _ _ _ _ _ _ hmore
      split_ifs at h with hc
      · obtain ⟨n, hn, rfl⟩ := (readThen_eq_ok_iff number).1 h
        exact ⟨c, more, hmore, .digits hc hn⟩
      · cases h
  · rintro ⟨c, more, hmore, hreads⟩
    unfold readValueWith
    cases hreads with
    | null h | yes h | no h | negative h | string h =>
      simp only [hmore]
      exact bind_of_eq_ok h _
    | array hpart h | object hpart h =>
      subst hpart
      simp only [hmore]
      exact bind_of_eq_ok h _
    | digits hc h =>
      rw [hmore]
      split
      case h_9 heq =>
        obtain ⟨rfl, rfl⟩ := List.cons.inj heq
        rw [if_pos hc]
        exact bind_of_eq_ok h _
      -- no other value begins with a digit
      all_goals
        rename_i heq
        cases heq
        try cases hc

/-- A value begins with a character that is neither blank nor part of a fence. -/
theorem ReadsFrom.head (h : ReadsFrom part? c more v rest) :
    isJsonBlank c = false ∧ Text.isBlank c = false ∧ c ≠ '`' := by
  cases h with
  | digits hc _ =>
    obtain ⟨hblank, hfence⟩ := not_isBlank_of_isDigit hc
    refine ⟨?_, hblank, hfence⟩
    by_contra hjson
    simp [isBlank_of_isJsonBlank (by simpa using hjson)] at hblank
  | _ => decide

theorem ReadsFrom.takes (hpart : ∀ part ∈ part?, Takes Solid part)
    (h : ReadsFrom part? c more v rest) :
    ∃ front, Solid (c :: front) ∧ more = front ++ rest ∧
      ∀ other, Meets rest other → ReadsFrom part? c (front ++ other) v other := by
  cases h with
  | null h =>
    refine ⟨['u', 'l', 'l'], ⟨['n', 'u', 'l'], 'l', rfl, by decide⟩, readIdent_eq_ok_iff.1 h, ?_⟩
    exact fun _ _ ↦ .null (readIdent_eq_ok_iff.2 rfl)
  | yes h =>
    refine ⟨['r', 'u', 'e'], ⟨['t', 'r', 'u'], 'e', rfl, by decide⟩, readIdent_eq_ok_iff.1 h, ?_⟩
    exact fun _ _ ↦ .yes (readIdent_eq_ok_iff.2 rfl)
  | no h =>
    refine ⟨['a', 'l', 's', 'e'], ⟨['f', 'a', 'l', 's'], 'e', rfl, by decide⟩,
      readIdent_eq_ok_iff.1 h, ?_⟩
    exact fun _ _ ↦ .no (readIdent_eq_ok_iff.2 rfl)
  | negative h =>
    obtain ⟨front, hfront, rfl, hsame⟩ := takes_readNumber true h
    exact ⟨front, hfront.cons, rfl, fun other hother ↦ .negative (hsame other hother)⟩
  | string h =>
    obtain ⟨front, hfront, rfl, hsame⟩ := takes_readString h
    exact ⟨front, hfront.cons, rfl, fun other hother ↦ .string (hsame other hother)⟩
  | array hsome h =>
    obtain ⟨front, hfront, rfl, hsame⟩ := (loops_items _).takes_readParts (hpart _ hsome) h
    exact ⟨front, hfront.cons, rfl, fun other hother ↦ .array hsome (hsame other hother)⟩
  | object hsome h =>
    obtain ⟨front, hfront, rfl, hsame⟩ :=
      (loops_members _).takes_readParts (takes_readQuoted (hpart _ hsome)) h
    exact ⟨front, hfront.cons, rfl, fun other hother ↦ .object hsome (hsame other hother)⟩
  | digits hc h =>
    obtain ⟨front, hfront, hmore, hsame⟩ := (takes_readNumber false).exists_behind h
    exact ⟨front, hfront, hmore, fun other hother ↦ .digits hc (hsame other hother)⟩

theorem takes_readValueWith (hpart : ∀ part ∈ part?, Takes Solid part) :
    Takes Solid (readValueWith part?) := by
  intro cs v rest h
  obtain ⟨c, more, hmore, hreads⟩ := readValueWith_eq_ok_iff.1 h
  obtain ⟨blanks, hblanks, hc, rfl⟩ := exists_of_skipBlanks_eq_cons hmore
  obtain ⟨front, hfront, rfl, hsame⟩ := hreads.takes hpart
  refine ⟨blanks ++ c :: front, hfront.append, by simp, fun other hother ↦ ?_⟩
  rw [List.append_assoc]
  exact readValueWith_eq_ok_iff.2 ⟨c, front ++ other, skipBlanks_append_cons hblanks hc _,
    hsame other hother⟩

end

theorem readValue_eq (depth : Nat) :
    ∃ part?, readValue depth = readValueWith part? ∧ ∀ part ∈ part?, Takes Solid part := by
  induction depth with
  | zero => exact ⟨none, rfl, by simp⟩
  | succ depth ih =>
    obtain ⟨part?, heq, hpart⟩ := ih
    refine ⟨some (readValue depth), rfl, ?_⟩
    rintro part hsome
    obtain rfl := Option.some.inj hsome
    rw [heq]
    exact takes_readValueWith hpart

/-- A text that begins and ends with characters that are neither blank nor part of a fence. -/
structure Bare (body : List Char) : Prop where
  head : ∀ c ∈ body.head?, Text.isBlank c = false ∧ c ≠ '`'
  solid : Solid body

/-- A text that spells a value holds the bare value, and only blanks around it. -/
theorem exists_of_readAll {cs : List Char} {v : Json} (h : readAll cs = .ok v) :
    ∃ before body after, cs = before ++ (body ++ after) ∧ (∀ b ∈ before, isJsonBlank b) ∧
      (∀ b ∈ after, isJsonBlank b) ∧ Bare body ∧ readAll body = .ok v := by
  obtain ⟨rest, hread, hrest⟩ := expectEnd_eq_ok_iff.1 h
  obtain ⟨part?, hvalue, hpart⟩ := readValue_eq nestingLimit
  rw [hvalue] at hread
  obtain ⟨c, more, hmore, hreads⟩ := readValueWith_eq_ok_iff.1 hread
  obtain ⟨before, hbefore, hc, rfl⟩ := exists_of_skipBlanks_eq_cons hmore
  obtain ⟨front, hfront, rfl, hsame⟩ := hreads.takes hpart
  have hbody : readValue nestingLimit (c :: front) = .ok (v, []) := by
    rw [hvalue]
    have hempty := hsame [] (.inl rfl)
    rw [List.append_nil] at hempty
    exact readValueWith_eq_ok_iff.2 ⟨c, front, skipBlanks_cons hc, hempty⟩
  refine ⟨before, c :: front, rest, by simp, hbefore, ?_, ⟨?_, hfront⟩, ?_⟩
  · intro b hb
    have hall := List.dropWhile_eq_nil_iff.mp hrest
    exact hall b hb
  · rintro d hd
    obtain rfl := Option.some.inj hd
    exact hreads.head.2
  · exact expectEnd_eq_ok_iff.2 ⟨[], hbody, rfl⟩

end WebScaffold.Json
