import WebScaffold.Json.Loose
import WebScaffold.Proofs.Escape
import WebScaffold.Proofs.Members
import WebScaffold.Proofs.NumberText
import WebScaffold.Proofs.Values

/-!
# Texts in which a value is written

A value may be written with blanks between its parts, and with commas that are too many, in front of
closing brackets. The strict reader gives the value back if no comma is too many, and nothing at all
otherwise.
-/

namespace WebScaffold.Json

variable {α : Type}

/-! ## The texts -/

/-- What stands in front of a closing bracket behind a part: blanks, or a comma too many with white
space around it. The commas too many are counted. -/
inductive Closing : Nat → List Char → Prop where
  | blanks {blanks : List Char} (hblanks : ∀ b ∈ blanks, isJsonBlank b) : Closing 0 blanks
  | comma {before after : List Char} (hbefore : ∀ b ∈ before, isJsonBlank b)
    (hafter : ∀ b ∈ after, Text.isBlank b) : Closing 1 (before ++ ',' :: after)

section

variable (part : α → Nat → List Char → Prop)

/-- The parts behind the first one, each with the comma in front of it. -/
inductive More : List α → Nat → List Char → Prop where
  | nil : More [] 0 []
  | cons {x : α} {xs : List α} {n m : Nat} {before after text more : List Char}
    (hbefore : ∀ b ∈ before, isJsonBlank b) (hafter : ∀ b ∈ after, isJsonBlank b)
    (hx : part x n text) (hxs : More xs m more) :
    More (x :: xs) (n + m) (before ++ ',' :: (after ++ (text ++ more)))

/-- What stands between brackets. -/
inductive Parts : List α → Nat → List Char → Prop where
  | empty {blanks : List Char} (hblanks : ∀ b ∈ blanks, isJsonBlank b) : Parts [] 0 blanks
  | filled {x : α} {xs : List α} {n m k : Nat} {before text more closing : List Char}
    (hbefore : ∀ b ∈ before, isJsonBlank b) (hx : part x n text) (hxs : More part xs m more)
    (hclosing : Closing k closing) :
    Parts (x :: xs) (n + m + k) (before ++ (text ++ (more ++ closing)))

end

section

variable (shown : String → List Char)

/-- A key in quotes, a colon and a value. -/
inductive WrittenMember (value : Json → Nat → List Char → Prop) :
    String × Json → Nat → List Char → Prop where
  | mk {key : String} {v : Json} {n : Nat} {before after text : List Char}
    (hbefore : ∀ b ∈ before, isJsonBlank b) (hafter : ∀ b ∈ after, isJsonBlank b)
    (hvalue : value v n text) :
    WrittenMember value (key, v) n
      ('"' :: (shown key ++ '"' :: (before ++ ':' :: (after ++ text))))

/-- A value whose parts are written as `part?` says; without it the value must be a scalar. Numbers
are those that are read back, and objects list their members in increasing key order. -/
inductive WrittenWith (part? : Option (Json → Nat → List Char → Prop)) :
    Json → Nat → List Char → Prop where
  | null : WrittenWith part? .null 0 ['n', 'u', 'l', 'l']
  | yes : WrittenWith part? (.bool true) 0 ['t', 'r', 'u', 'e']
  | no : WrittenWith part? (.bool false) 0 ['f', 'a', 'l', 's', 'e']
  | number {n : JsonNumber} (hread : readAll (printNumber n) = .ok (.number n)) :
    WrittenWith part? (.number n) 0 (printNumber n)
  | string (s : String) : WrittenWith part? (.string s) 0 ('"' :: (shown s ++ ['"']))
  | array {part : Json → Nat → List Char → Prop} {items : List Json} {n : Nat} {inner : List Char}
    (hpart : part? = some part) (hinner : Parts part items n inner) :
    WrittenWith part? (.array items) n ('[' :: (inner ++ [']']))
  | object {part : Json → Nat → List Char → Prop} {members : List (String × Json)} {n : Nat}
    {inner : List Char} (hpart : part? = some part) (hincreasing : Table.Increasing members)
    (hinner : Parts (WrittenMember shown part) members n inner) :
    WrittenWith part? (.object members) n ('{' :: (inner ++ ['}']))

/-- The texts of a value that nests at most `depth` levels, with the number of commas too many.
What stands between the quotes of a text is given by `shown`. -/
def Written : (depth : Nat) → Json → Nat → List Char → Prop
  | 0 => WrittenWith shown none
  | depth + 1 => WrittenWith shown (some (Written depth))

end

/-- A text as it stands between its quotes. -/
def spelling (s : String) : List Char :=
  escape s.toList

/-! ## Numbers and what follows them -/

/-- No number goes on here. -/
def Ends (rest : List Char) : Prop :=
  ∀ c ∈ rest.head?, ¬c.isDigit ∧ c ≠ '.' ∧ c ≠ 'e' ∧ c ≠ 'E'

section

variable {cs ds rest other : List Char}

theorem forall_head_append {p : Char → Prop} (hrest : ∀ c ∈ rest.head?, p c)
    (hother : ∀ c ∈ other.head?, p c) : ∀ c ∈ (rest ++ other).head?, p c := by
  cases rest with
  | nil => exact hother
  | cons c rest => exact hrest

theorem readWhole_append (hother : Ends other) (h : readWhole cs = .ok (ds, rest)) :
    readWhole (cs ++ other) = .ok (ds, rest ++ other) := by
  obtain ⟨hds, hzero, rfl, hnext⟩ := readWhole_eq_ok_iff.1 h
  exact readWhole_eq_ok_iff.2 ⟨hds, hzero, by simp,
    forall_head_append hnext fun c hc ↦ (hother c hc).1⟩

theorem readFraction_append {fraction : Option (List Char)} (hother : Ends other)
    (h : readFraction cs = .ok (fraction, rest)) :
    readFraction (cs ++ other) = .ok (fraction, rest ++ other) := by
  rcases readFraction_eq_ok_iff.1 h with ⟨rfl, rfl, hpoint⟩ | ⟨ds, rfl, hds, rfl, hnext⟩
  · exact readFraction_eq_ok_iff.2 (.inl ⟨rfl, rfl,
      forall_head_append hpoint fun c hc ↦ (hother c hc).2.1⟩)
  · exact readFraction_eq_ok_iff.2 (.inr ⟨ds, rfl, hds, by simp,
      forall_head_append hnext fun c hc ↦ (hother c hc).1⟩)

theorem readExponent_append {exponent : Option (Bool × List Char)} (hother : Ends other)
    (h : readExponent cs = .ok (exponent, rest)) :
    readExponent (cs ++ other) = .ok (exponent, rest ++ other) := by
  rcases readExponent_eq_ok_iff.1 h with
    ⟨rfl, rfl, hmark⟩ | ⟨mark, sign, down, ds, hmark, hsign, rfl, hds, rfl, hnext⟩
  · exact readExponent_eq_ok_iff.2 (.inl ⟨rfl, rfl,
      forall_head_append hmark fun c hc ↦ (hother c hc).2.2⟩)
  · exact readExponent_eq_ok_iff.2 (.inr ⟨mark, sign, down, ds, hmark, hsign, rfl, hds, by simp,
      forall_head_append hnext fun c hc ↦ (hother c hc).1⟩)

/-- A number is read alike when something stands behind it that cannot belong to it. -/
theorem readNumber_append {negative : Bool} {n : JsonNumber} (hother : Ends other)
    (h : readNumber negative cs = .ok (n, rest)) :
    readNumber negative (cs ++ other) = .ok (n, rest ++ other) := by
  obtain ⟨_, _, _, _, _, hwhole, hfraction, hexponent, hsame⟩ := exists_of_readNumber h
  exact hsame _ _ _ _ (readWhole_append hother hwhole) (readFraction_append hother hfraction)
    (readExponent_append hother hexponent)

end

/-! ## Reading written parts -/

/-- A text begins neither in white space nor with a closing bracket. -/
def Starts (text : List Char) : Prop :=
  ∃ c more, text = c :: more ∧ Text.isBlank c = false ∧ isCloser c = false

/-- Whatever comes behind a text, it is read as a value if no comma is too many in it, and not at
all otherwise. -/
def ReadAs (read : List Char → Attempt (α × List Char)) (x : α) (added : Nat)
    (text : List Char) : Prop :=
  ∀ rest, Ends rest → ∀ y after,
    read (text ++ rest) = .ok (y, after) ↔ added = 0 ∧ y = x ∧ after = rest

/-- A reader and the texts that it reads. What begins in white space that is no blank of Json is
refused. -/
structure Reads (read : List Char → Attempt (α × List Char))
    (part : α → Nat → List Char → Prop) : Prop where
  starts : ∀ {x n text}, part x n text → Starts text
  readAs : ∀ {x n text}, part x n text → ReadAs read x n text
  refuses : ∀ {c}, Text.isBlank c → isJsonBlank c = false → ∀ more found,
    read (c :: more) ≠ .ok found

section

variable {read : List Char → Attempt (α × List Char)} {x : α} {n k fuel : Nat} {c d : Char}
variable {blanks text more closing rest after : List Char}

theorem readAs_of_eq (h : ∀ rest, Ends rest → read (text ++ rest) = .ok (x, rest)) :
    ReadAs read x 0 text := by
  intro rest hrest y after
  rw [h rest hrest, Except.ok.injEq, Prod.mk.injEq]
  grind

theorem not_isJsonBlank_of_not_isBlank (h : Text.isBlank c = false) : isJsonBlank c = false := by
  by_contra hjson
  simp [isBlank_of_isJsonBlank (by simpa using hjson)] at h

theorem Starts.skipBlanks (h : Starts text) (hblanks : ∀ b ∈ blanks, isJsonBlank b)
    (rest : List Char) : Json.skipBlanks (blanks ++ (text ++ rest)) = text ++ rest := by
  obtain ⟨c, more, rfl, hc, -⟩ := h
  exact skipBlanks_append_cons hblanks (not_isJsonBlank_of_not_isBlank hc) _

/-- White space that is skipped in part stops at itself or at what stands behind it. -/
theorem isBlank_of_skipBlanks_append (hblanks : ∀ b ∈ blanks, Text.isBlank b)
    (hd : isJsonBlank d = false) (h : Json.skipBlanks (blanks ++ d :: rest) = c :: more) :
    c = d ∨ Text.isBlank c ∧ isJsonBlank c = false := by
  induction blanks with
  | nil =>
    rw [List.nil_append, skipBlanks_cons hd] at h
    exact .inl (List.cons.inj h).1.symm
  | cons b blanks ih =>
    obtain ⟨hb, hblanks⟩ := List.forall_mem_cons.1 hblanks
    by_cases hjson : isJsonBlank b
    · have hskip : Json.skipBlanks (b :: (blanks ++ d :: rest)) =
          Json.skipBlanks (blanks ++ d :: rest) :=
        skipBlanks_append (List.forall_mem_singleton.2 hjson) _
      exact ih hblanks (hskip.symm.trans h)
    · have hjson : isJsonBlank b = false := by simpa using hjson
      rw [List.cons_append, skipBlanks_cons hjson] at h
      obtain rfl := (List.cons.inj h).1
      exact .inr ⟨hb, hjson⟩

theorem ends_cons (hc : ¬c.isDigit ∧ c ≠ '.' ∧ c ≠ 'e' ∧ c ≠ 'E') (rest : List Char) :
    Ends (c :: rest) := by
  rintro d hd
  obtain rfl := Option.some.inj hd
  exact hc

theorem ends_blanks_append (hblanks : ∀ b ∈ blanks, isJsonBlank b) (hrest : Ends rest) :
    Ends (blanks ++ rest) := by
  refine forall_head_append (fun b hb ↦ ?_) hrest
  rcases isJsonBlank_iff.1 (hblanks b (List.mem_of_mem_head? hb)) with rfl | rfl | rfl | rfl <;>
    decide

theorem Closing.ends (h : Closing k closing) (hc : isCloser c) (rest : List Char) :
    Ends (closing ++ c :: rest) := by
  have hcloser : Ends (c :: rest) := by
    rcases isCloser_iff.1 hc with rfl | rfl <;> exact ends_cons (by decide) rest
  cases h with
  | blanks hblanks => exact ends_blanks_append hblanks hcloser
  | comma hbefore hafter =>
    rw [List.append_assoc]
    exact ends_blanks_append hbefore (ends_cons (by decide) _)

theorem More.ends {part : α → Nat → List Char → Prop} {xs : List α} (h : More part xs n more)
    (hrest : Ends rest) : Ends (more ++ rest) := by
  cases h with
  | nil => exact hrest
  | cons hbefore hafter hx hxs =>
    rw [List.append_assoc]
    exact ends_blanks_append hbefore (ends_cons (by decide) _)

end

section

variable {part : α → Nat → List Char → Prop} {read : List Char → Attempt (α × List Char)}
variable {closer : Char} {readMore : Nat → List Char → Attempt (List α × List Char)}
variable {readParts : List Char → Attempt (List α × List Char)}
variable {x : α} {xs ys : List α} {n k fuel : Nat}
variable {cs behind text inner more closing rest after : List Char}

theorem Loops.readMore_closing (hloops : Loops read closer readMore readParts)
    (hread : Reads read part) (hclosing : Closing k closing) :
    readMore (fuel + 1) (closing ++ closer :: rest) = .ok (ys, after) ↔
      k = 0 ∧ ys = [] ∧ after = rest := by
  have hcloser := not_isJsonBlank_of_isCloser hloops.isCloser
  rw [hloops.more]
  cases hclosing with
  | blanks hblanks =>
    rw [skipBlanks_append_cons hblanks hcloser]
    constructor
    · rintro (⟨hend, rfl⟩ | ⟨_, _, _, _, _, _, hcomma, -⟩)
      · exact ⟨rfl, rfl, (List.cons.inj hend).2.symm⟩
      · obtain ⟨rfl, -⟩ := List.cons.inj hcomma
        cases hloops.isCloser
    · rintro ⟨-, rfl, rfl⟩
      exact .inl ⟨rfl, rfl⟩
  | comma hbefore hafter =>
    rw [List.append_assoc, List.cons_append, skipBlanks_append_cons hbefore (by decide)]
    refine iff_of_false ?_ (by simp)
    rintro (⟨hend, -⟩ | ⟨_, c, more, _, _, _, hcomma, hmore, hclose, hx, -⟩)
    · obtain ⟨rfl, -⟩ := List.cons.inj hend
      cases hloops.isCloser
    · obtain ⟨-, rfl⟩ := List.cons.inj hcomma
      rcases isBlank_of_skipBlanks_append hafter hcloser hmore with rfl | ⟨hblank, hjson⟩
      · exact hclose rfl
      · exact hread.refuses hblank hjson more _ hx

theorem Loops.readMore_cons (hloops : Loops read closer readMore readParts)
    (hread : Reads read part) (hx : part x n text) (hrest : Ends rest)
    (hcomma : skipBlanks cs = ',' :: behind) (hbehind : skipBlanks behind = text ++ rest) :
    readMore (fuel + 1) cs = .ok (ys, after) ↔
      n = 0 ∧ ∃ xs, readMore fuel rest = .ok (xs, after) ∧ ys = x :: xs := by
  obtain ⟨c, front, rfl, -, hc⟩ := hread.starts hx
  have hreads := hread.readAs hx rest hrest
  rw [hloops.more, hcomma]
  constructor
  · rintro (⟨hend, -⟩ | ⟨_, _, _, _, _, xs, hcomma', hhead, -, hfound, hxs, rfl⟩)
    · obtain ⟨rfl, -⟩ := List.cons.inj hend
      cases hloops.isCloser
    · obtain ⟨-, rfl⟩ := List.cons.inj hcomma'
      obtain ⟨rfl, rfl⟩ := List.cons.inj (hbehind.symm.trans hhead)
      obtain ⟨hn, rfl, rfl⟩ := (hreads _ _).1 hfound
      exact ⟨hn, xs, hxs, rfl⟩
  · rintro ⟨hn, xs, hxs, rfl⟩
    refine .inr ⟨behind, c, front ++ rest, x, rest, xs, rfl, hbehind, ?_, ?_, hxs, rfl⟩
    · rintro rfl
      simp [hloops.isCloser] at hc
    · exact (hreads _ _).2 ⟨hn, rfl, rfl⟩

theorem Loops.readParts_cons (hloops : Loops read closer readMore readParts)
    (hread : Reads read part) (hx : part x n text) (hrest : Ends rest)
    (hcs : skipBlanks cs = text ++ rest) :
    readParts cs = .ok (ys, after) ↔
      n = 0 ∧ ∃ xs, readMore (rest.length + 1) rest = .ok (xs, after) ∧ ys = x :: xs := by
  obtain ⟨c, front, rfl, -, hc⟩ := hread.starts hx
  have hreads := hread.readAs hx rest hrest
  have hclose : c ≠ closer := by
    rintro rfl
    simp [hloops.isCloser] at hc
  rw [hloops.parts, hcs]
  constructor
  · rintro (⟨hend, -⟩ | ⟨_, _, _, _, xs, hhead, -, hfound, hxs, rfl⟩)
    · exact absurd (List.cons.inj hend).1 hclose
    · obtain ⟨rfl, rfl⟩ := List.cons.inj hhead
      obtain ⟨hn, rfl, rfl⟩ := (hreads _ _).1 hfound
      exact ⟨hn, xs, hxs, rfl⟩
  · rintro ⟨hn, xs, hxs, rfl⟩
    exact .inr ⟨c, front ++ rest, x, rest, xs, rfl, hclose, (hreads _ _).2 ⟨hn, rfl, rfl⟩, hxs, rfl⟩

theorem Loops.readMore_more (hloops : Loops read closer readMore readParts)
    (hread : Reads read part) (hmore : More part xs n more) (hclosing : Closing k closing)
    (hfuel : (more ++ (closing ++ closer :: rest)).length ≤ fuel) :
    readMore fuel (more ++ (closing ++ closer :: rest)) = .ok (ys, after) ↔
      n + k = 0 ∧ ys = xs ∧ after = rest := by
  obtain ⟨enough, rfl⟩ : ∃ enough, fuel = enough + 1 :=
    Nat.exists_eq_add_of_le' (Nat.le_trans (by simp; omega) hfuel)
  induction hmore generalizing enough ys with
  | nil => simpa using hloops.readMore_closing hread hclosing
  | @cons x xs n m before inner text more hbefore hinner hx hxs ih =>
    have hends := hxs.ends (hclosing.ends hloops.isCloser rest)
    have hcomma : skipBlanks (before ++ ',' :: (inner ++ (text ++ more)) ++
        (closing ++ closer :: rest)) =
          ',' :: (inner ++ (text ++ (more ++ (closing ++ closer :: rest)))) := by
      simpa using skipBlanks_append_cons hbefore (by decide : isJsonBlank ',' = false) _
    obtain ⟨enough, rfl⟩ : ∃ less, enough = less + 1 := by
      refine Nat.exists_eq_add_of_le' ?_
      simp only [List.length_append, List.length_cons] at hfuel
      omega
    rw [hloops.readMore_cons hread hx hends hcomma ((hread.starts hx).skipBlanks hinner _)]
    have hrest (ys : List α) := @ih ys enough (by simp at hfuel ⊢; omega)
    simp only [hrest]
    grind

/-- Parts are read up to their closing bracket if no comma is too many in them. -/
theorem Loops.readParts_parts (hloops : Loops read closer readMore readParts)
    (hread : Reads read part) (hparts : Parts part xs n inner) :
    readParts (inner ++ closer :: rest) = .ok (ys, after) ↔ n = 0 ∧ ys = xs ∧ after = rest := by
  have hcloser := not_isJsonBlank_of_isCloser hloops.isCloser
  cases hparts with
  | empty hblanks =>
    rw [hloops.parts, skipBlanks_append_cons hblanks hcloser]
    constructor
    · rintro (⟨hend, rfl⟩ | ⟨_, _, _, _, _, hhead, hclose, -⟩)
      · exact ⟨rfl, rfl, (List.cons.inj hend).2.symm⟩
      · exact absurd (List.cons.inj hhead).1.symm hclose
    · rintro ⟨-, rfl, rfl⟩
      exact .inl ⟨rfl, rfl⟩
  | @filled x xs n m k before text more closing hbefore hx hxs hclosing =>
    have hends := hxs.ends (hclosing.ends hloops.isCloser rest)
    have hshape : skipBlanks (before ++ (text ++ (more ++ closing)) ++ closer :: rest) =
        text ++ (more ++ (closing ++ closer :: rest)) := by
      simpa using (hread.starts hx).skipBlanks hbefore (more ++ (closing ++ closer :: rest))
    have hrest (ys : List α) : readMore ((more ++ (closing ++ closer :: rest)).length + 1)
        (more ++ (closing ++ closer :: rest)) = .ok (ys, after) ↔
          m + k = 0 ∧ ys = xs ∧ after = rest :=
      hloops.readMore_more hread hxs hclosing (Nat.le_succ _)
    rw [hloops.readParts_cons hread hx hends hshape]
    simp only [hrest]
    grind

end

/-! ## Reading written values -/

section

variable {part? : Option (Json → Nat → List Char → Prop)}
variable {read? : Option (List Char → Attempt (Json × List Char))}
variable {value : Json → Nat → List Char → Prop} {read : List Char → Attempt (Json × List Char)}
variable {v : Json} {n : Nat} {text blanks : List Char}

theorem readValueWith_append (hblanks : ∀ b ∈ blanks, isJsonBlank b) (cs : List Char) :
    readValueWith read? (blanks ++ cs) = readValueWith read? cs := by
  unfold readValueWith
  rw [skipBlanks_append hblanks]

theorem readValueWith_blank {c : Char} (hblank : Text.isBlank c) (hjson : isJsonBlank c = false)
    (more : List Char) (found : Json × List Char) :
    readValueWith read? (c :: more) ≠ .ok found := by
  intro h
  obtain ⟨d, behind, hd, hreads⟩ := readValueWith_eq_ok_iff.1 h
  rw [skipBlanks_cons hjson] at hd
  obtain ⟨rfl, rfl⟩ := List.cons.inj hd
  simp [hreads.head.2.1] at hblank

theorem WrittenMember.starts {shown : String → List Char} {member : String × Json}
    (h : WrittenMember shown value member n text) : Starts text := by
  cases h
  exact ⟨'"', _, rfl, rfl, rfl⟩

theorem WrittenMember.reads
    (hvalue : Reads read value)
    (hskip : ∀ {blanks}, (∀ b ∈ blanks, isJsonBlank b) → ∀ cs, read (blanks ++ cs) = read cs) :
    Reads (readQuoted read) (WrittenMember spelling value) where
  starts := WrittenMember.starts
  readAs := by
    rintro ⟨key, v⟩ n _ (@⟨_, _, _, before, inner, text, hbefore, hinner, hv⟩) rest hrest
      member after
    have hstring := readString_escape key (before ++ ':' :: (inner ++ (text ++ rest)))
    have hcolon : readColon (before ++ ':' :: (inner ++ (text ++ rest))) =
        .ok (inner ++ (text ++ rest)) :=
      readColon_eq_ok_iff.2 (skipBlanks_append_cons hbefore (by decide) _)
    have hmember : readMember read
        (spelling key ++ '"' :: (before ++ ':' :: (inner ++ (text ++ rest)))) =
          read (text ++ rest) >>= fun found ↦ .ok ((key, found.1), found.2) := by
      unfold readMember
      rw [spelling, bind_of_eq_ok hstring]
      simp only [bind_of_eq_ok hcolon, hskip hinner]
      rfl
    have hshape : '"' :: (spelling key ++ '"' :: (before ++ ':' :: (inner ++ text))) ++ rest =
        '"' :: (spelling key ++ '"' :: (before ++ ':' :: (inner ++ (text ++ rest)))) := by simp
    rw [hshape, readQuoted, hmember, bind_eq_ok_iff]
    simp only [hvalue.readAs hv rest hrest, Prod.exists]
    grind
  refuses := by
    intro c hblank hjson more found h
    obtain ⟨_, hquote, -⟩ := readQuoted_eq_ok_iff.1 h
    obtain ⟨rfl, -⟩ := List.cons.inj hquote
    cases hblank

theorem eq_nil_of_number_blanks (hblanks : ∀ b ∈ blanks, isJsonBlank b)
    (hnumber : ∀ b ∈ blanks, IsNumberChar b) : blanks = [] := by
  refine List.eq_nil_iff_forall_not_mem.2 fun b hb ↦ ?_
  rcases isJsonBlank_iff.1 (hblanks b hb) with rfl | rfl | rfl | rfl <;>
    exact absurd (hnumber _ hb) (by decide)

/-- A printed number that is read back is read to its end, by its sign or by its first digit. -/
theorem exists_of_readAll_printNumber {n : JsonNumber}
    (hread : readAll (printNumber n) = .ok (.number n)) :
    ∃ c more, printNumber n = c :: more ∧
      (c = '-' ∧ readNumber true more = .ok (n, []) ∨
        c.isDigit ∧ readNumber false (c :: more) = .ok (n, [])) := by
  obtain ⟨rest, hvalue, hrest⟩ := expectEnd_eq_ok_iff.1 hread
  obtain ⟨part?, hpart?, hpart⟩ := readValue_eq nestingLimit
  rw [hpart?] at hvalue
  obtain ⟨c, more, hmore, hreads⟩ := readValueWith_eq_ok_iff.1 hvalue
  obtain ⟨blanks, hblanks, -, hshape⟩ := exists_of_skipBlanks_eq_cons hmore
  obtain ⟨front, -, hfront, -⟩ := hreads.takes hpart
  have hnumber := isNumberChar_printNumber n
  rw [hshape, hfront] at hnumber
  obtain rfl : rest = [] :=
    eq_nil_of_number_blanks (List.dropWhile_eq_nil_iff.1 hrest) fun b hb ↦ hnumber b (by simp [hb])
  obtain rfl : blanks = [] :=
    eq_nil_of_number_blanks hblanks fun b hb ↦ hnumber b (by simp [hb])
  refine ⟨c, more, hshape, ?_⟩
  cases hreads with
  | negative h => exact .inl ⟨rfl, h⟩
  | digits hc h => exact .inr ⟨hc, h⟩

theorem readValueWith_printNumber {n : JsonNumber}
    (hread : readAll (printNumber n) = .ok (.number n)) {rest : List Char} (hrest : Ends rest) :
    readValueWith read? (printNumber n ++ rest) = .ok (.number n, rest) := by
  obtain ⟨c, more, hshape, hnumber⟩ := exists_of_readAll_printNumber hread
  rw [hshape]
  refine readValueWith_eq_ok_iff.2 ⟨c, more ++ rest, ?_, ?_⟩
  · have hc : isJsonBlank c = false := by
      rcases hnumber with ⟨rfl, -⟩ | ⟨hc, -⟩
      · rfl
      · exact not_isJsonBlank_of_not_isBlank (not_isBlank_of_isDigit hc).1
    exact skipBlanks_cons hc
  · rcases hnumber with ⟨rfl, h⟩ | ⟨hc, h⟩
    · exact .negative (readNumber_append hrest h)
    · exact .digits hc (readNumber_append hrest h)

theorem starts_printNumber {n : JsonNumber} (hread : readAll (printNumber n) = .ok (.number n)) :
    Starts (printNumber n) := by
  obtain ⟨c, more, hshape, hnumber⟩ := exists_of_readAll_printNumber hread
  refine ⟨c, more, hshape, ?_⟩
  rcases hnumber with ⟨rfl, -⟩ | ⟨hc, -⟩
  · decide
  · refine ⟨(not_isBlank_of_isDigit hc).1, ?_⟩
    by_contra hcloser
    rcases isCloser_iff.1 (by simpa using hcloser) with rfl | rfl <;> cases hc

theorem WrittenWith.starts {shown : String → List Char} (h : WrittenWith shown part? v n text) :
    Starts text := by
  cases h with
  | number hread => exact starts_printNumber hread
  | _ => exact ⟨_, _, rfl, rfl, rfl⟩

/-- What each level of nesting has to be told about the level below. -/
theorem reads_readValueWith (hpart : ∀ part ∈ part?, ∃ read, read? = some read ∧
      Reads read part ∧
      ∀ {blanks}, (∀ b ∈ blanks, isJsonBlank b) → ∀ cs, read (blanks ++ cs) = read cs) :
    Reads (readValueWith read?) (WrittenWith spelling part?) where
  starts := WrittenWith.starts
  readAs := by
    intro v n text h
    cases h with
    | null | yes | no => exact readAs_of_eq fun rest _ ↦ rfl
    | number hread => exact readAs_of_eq fun rest hrest ↦ readValueWith_printNumber hread hrest
    | string s =>
      refine readAs_of_eq fun rest _ ↦ ?_
      have hshape : '"' :: (spelling s ++ ['"']) ++ rest = '"' :: (spelling s ++ '"' :: rest) := by
        simp
      rw [hshape]
      exact readValueWith_eq_ok_iff.2
        ⟨'"', _, skipBlanks_cons (by decide), .string (readString_escape s rest)⟩
    | @array part items n inner hsome hinner =>
      obtain ⟨read, rfl, hread, -⟩ := hpart part hsome
      intro rest _ w after
      have hshape : '[' :: (inner ++ [']']) ++ rest = '[' :: (inner ++ ']' :: rest) := by simp
      have hvalue : readValueWith (some read) ('[' :: (inner ++ ']' :: rest)) =
          readItems read (inner ++ ']' :: rest) >>= fun found ↦ .ok (.array found.1, found.2) := rfl
      rw [hshape, hvalue, bind_eq_ok_iff]
      simp only [Prod.exists, (loops_items read).readParts_parts hread hinner]
      grind
    | @object part members n inner hsome hincreasing hinner =>
      obtain ⟨read, rfl, hread, hskip⟩ := hpart part hsome
      intro rest _ w after
      have hshape : '{' :: (inner ++ ['}']) ++ rest =
          '{' :: (inner ++ '}' :: rest) := by simp
      have hvalue : readValueWith (some read) ('{' :: (inner ++ '}' :: rest)) =
          readMembers read (inner ++ '}' :: rest) >>=
            fun found ↦ .ok (ofMembers found.1, found.2) := rfl
      have hmembers : ofMembers members = .object members :=
        congrArg object (Table.ofList_of_increasing hincreasing)
      rw [hshape, hvalue, bind_eq_ok_iff]
      simp only [Prod.exists,
        (loops_members read).readParts_parts (WrittenMember.reads hread hskip) hinner]
      grind
  refuses := readValueWith_blank

end

theorem reads_readValue (depth : Nat) :
    Reads (readValue depth) (Written spelling depth) ∧
      ∀ {blanks}, (∀ b ∈ blanks, isJsonBlank b) → ∀ cs,
        readValue depth (blanks ++ cs) = readValue depth cs := by
  induction depth with
  | zero =>
    exact ⟨reads_readValueWith (by simp), readValueWith_append⟩
  | succ depth ih =>
    refine ⟨reads_readValueWith fun part hpart ↦ ?_, readValueWith_append⟩
    obtain rfl := Option.some.inj hpart
    exact ⟨readValue depth, rfl, ih⟩

/-- The strict reader reads a value out of its texts without a comma too many, and nothing out of
its other texts. -/
theorem Written.readAll_eq_ok_iff {v w : Json} {added : Nat} {text : List Char}
    (h : Written spelling nestingLimit v added text) :
    readAll text = .ok w ↔ added = 0 ∧ w = v := by
  have hread := (reads_readValue nestingLimit).1.readAs h [] (by simp [Ends])
  rw [List.append_nil] at hread
  constructor
  · intro hall
    obtain ⟨rest, hfound, -⟩ := expectEnd_eq_ok_iff.1 hall
    obtain ⟨hadded, rfl, -⟩ := (hread w rest).1 hfound
    exact ⟨hadded, rfl⟩
  · rintro ⟨hadded, rfl⟩
    exact expectEnd_eq_ok_iff.2 ⟨[], (hread w []).2 ⟨hadded, rfl, rfl⟩, rfl⟩

end WebScaffold.Json
