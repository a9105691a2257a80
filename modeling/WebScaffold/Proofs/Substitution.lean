import Mathlib.Data.List.Nodup
import WebScaffold.Proofs.Case
import WebScaffold.Proofs.Escape
import WebScaffold.Proofs.PageImports

/-!
# Filling in tokens

A template is filled in one token after the other, so where the text of a token holds a token that
comes later, that one is filled in as well. What each token stands for in the end can be told
beforehand, from the tokens alone. With these settled texts the rendering is one pass over the
template, which never looks at what it has put in, as long as the tokens of the template stand apart
from each other and from what could be part of a token. It is one pass with the texts as they are
given just when these are settled.
-/

namespace WebScaffold

namespace Template

variable {tokens names : List String} {table : Table String} {key text : String}
variable {cs front back rest run : List Char} {c : Char} {entry : String × String}

/-! ## One pass -/

/-- The token that a text begins with, and what it stands for. -/
def tokenAt? (tokens : Table String) (cs : List Char) : Option (String × String) :=
  tokens.find? fun entry ↦ entry.1.toList.isPrefixOf cs

/-- Fills in the tokens of a text from left to right. Behind a token the pass goes on in the text;
the next `skip` characters belong to a token that is filled in already. -/
def fillFrom (tokens : Table String) : Nat → List Char → List Char
  | _, [] => []
  | skip + 1, _ :: cs => fillFrom tokens skip cs
  | 0, c :: cs =>
    match tokenAt? tokens (c :: cs) with
    | some (token, text) => Json.escape text.toList ++ fillFrom tokens (token.toList.length - 1) cs
    | none => c :: fillFrom tokens 0 cs

def onePass (tokens : Table String) (text : String) : String :=
  String.ofList (fillFrom tokens 0 text.toList)

/-- The characters that tokens are made of. -/
def isTokenChar (c : Char) : Bool :=
  c.isUpper || c.isDigit || c == '_'

theorem isTokenChar_iff : isTokenChar c ↔ c.isUpper ∨ c.isDigit ∨ c = '_' := by
  simp only [isTokenChar, Bool.or_eq_true, beq_iff_eq, or_assoc]

theorem not_of_isTokenChar_eq_false (h : isTokenChar c = false) :
    ¬(c.isUpper ∨ c.isDigit ∨ c = '_') := by
  rw [← isTokenChar_iff, h]
  exact Bool.false_ne_true

theorem IsToken.isTokenChar (h : IsToken key) : ∀ c ∈ key.toList, isTokenChar c :=
  fun _ hc ↦ isTokenChar_iff.2 (h.isUpper_or_isDigit hc)

theorem tokenAt?_eq_none_iff :
    tokenAt? table cs = none ↔ ∀ entry ∈ table, ¬entry.1.toList <+: cs := by
  simp only [tokenAt?, List.find?_eq_none, List.isPrefixOf_iff_prefix]

theorem of_tokenAt? (h : tokenAt? table cs = some entry) :
    entry ∈ table ∧ entry.1.toList <+: cs := by
  have hhere : entry.1.toList.isPrefixOf cs := by simpa using List.find?_some h
  exact ⟨List.mem_of_find?_eq_some h, List.isPrefixOf_iff_prefix.1 hhere⟩

/-- A token at the front of a text ends in front of a character that is in none. -/
theorem tokenAt?_append_cons (htable : ∀ entry ∈ table, IsToken entry.1)
    (hc : isTokenChar c = false) (front back : List Char) :
    tokenAt? table (front ++ c :: back) = tokenAt? table front := by
  induction table with
  | nil => rfl
  | cons entry table ih =>
    obtain ⟨hentry, htable⟩ := List.forall_mem_cons.1 htable
    have hnotMem : c ∉ entry.1.toList := hentry.notMem (not_of_isTokenChar_eq_false hc)
    have hsame : entry.1.toList.isPrefixOf (front ++ c :: back) =
        entry.1.toList.isPrefixOf front := by
      rw [Bool.eq_iff_iff, List.isPrefixOf_iff_prefix, List.isPrefixOf_iff_prefix]
      constructor
      · exact Text.prefix_of_prefix_append_cons hnotMem
      · intro hhere
        exact hhere.trans (List.prefix_append _ _)
    have hrest := ih htable
    rw [tokenAt?, tokenAt?] at hrest ⊢
    rw [List.find?_cons, List.find?_cons, hsame, hrest]

theorem fillFrom_eq_drop (tokens : Table String) (skip : Nat) (cs : List Char) :
    fillFrom tokens skip cs = fillFrom tokens 0 (cs.drop skip) := by
  induction cs generalizing skip with
  | nil => cases skip <;> simp [fillFrom]
  | cons c cs ih =>
    cases skip with
    | zero => rfl
    | succ skip => exact ih skip

theorem fillFrom_cons (h : tokenAt? table (c :: cs) = none) :
    fillFrom table 0 (c :: cs) = c :: fillFrom table 0 cs := by
  rw [fillFrom, h]

theorem fillFrom_token (hkey : entry.1.toList ≠ [])
    (h : tokenAt? table (entry.1.toList ++ rest) = some entry) :
    fillFrom table 0 (entry.1.toList ++ rest) =
      Json.escape entry.2.toList ++ fillFrom table 0 rest := by
  obtain ⟨first, others, hsplit⟩ := List.exists_cons_of_ne_nil hkey
  have hdrop : (others ++ rest).drop (entry.1.toList.length - 1) = rest := by
    rw [hsplit, List.length_cons, Nat.add_sub_cancel, List.drop_left]
  rw [hsplit, List.cons_append] at h ⊢
  rw [fillFrom, h]
  dsimp only
  rw [fillFrom_eq_drop, hdrop]

theorem fillFrom_eq_self (h : ∀ entry ∈ table, ¬entry.1.toList <:+: cs) :
    fillFrom table 0 cs = cs := by
  induction cs with
  | nil => rfl
  | cons c cs ih =>
    have hhead : tokenAt? table (c :: cs) = none :=
      tokenAt?_eq_none_iff.2 fun entry hentry hhere ↦ h entry hentry hhere.isInfix
    have htail : ∀ entry ∈ table, ¬entry.1.toList <:+: cs :=
      fun entry hentry hstands ↦ h entry hentry (List.infix_cons hstands)
    rw [fillFrom_cons hhead, ih htail]

/-- A pass goes on as at the start behind a character that is in no token. -/
theorem fillFrom_append_cons (htable : ∀ entry ∈ table, IsToken entry.1)
    (hc : isTokenChar c = false) (front back : List Char) :
    fillFrom table 0 (front ++ c :: back) =
      fillFrom table 0 front ++ c :: fillFrom table 0 back := by
  induction hlength : front.length using Nat.strong_induction_on generalizing front with
  | _ length ih =>
    have hwhole := tokenAt?_append_cons htable hc front back
    cases hhere : tokenAt? table front with
    | some entry =>
      obtain ⟨hentry, rest, rfl⟩ := of_tokenAt? hhere
      have hkey : entry.1.toList ≠ [] := (htable entry hentry).toList_ne_nil
      have hpos : 0 < entry.1.toList.length := List.length_pos_iff.2 hkey
      have hrest : rest.length < length := by
        rw [← hlength, List.length_append]
        omega
      rw [hhere, List.append_assoc] at hwhole
      rw [List.append_assoc, fillFrom_token hkey hwhole, fillFrom_token hkey hhere,
        ih rest.length hrest rest rfl, List.append_assoc]
    | none =>
      rw [hhere] at hwhole
      cases front with
      | nil => exact fillFrom_cons hwhole
      | cons first front =>
        have hrest : front.length < length := by
          rw [← hlength, List.length_cons]
          exact Nat.lt_succ_self _
        rw [List.cons_append] at hwhole ⊢
        rw [fillFrom_cons hwhole, fillFrom_cons hhere, ih front.length hrest front rfl,
          List.cons_append]

/-! ## Runs -/

/-- The longest runs of a text of such characters as tokens are made of. -/
def runs (cs : List Char) : List (List Char) :=
  Text.pieces (!isTokenChar ·) cs

theorem runs_append_cons (hc : isTokenChar c = false) (front back : List Char) :
    runs (front ++ c :: back) = runs front ++ runs back :=
  Text.pieces_append_cons (by simp [hc]) front back

theorem runs_of_forall (h : ∀ c ∈ cs, isTokenChar c) : runs cs = [cs] :=
  Text.pieces_of_forall_not fun c hc ↦ by simp [h c hc]

/-- Two ways to change a text, which both keep what stands between its runs, agree on the text where
they agree on its runs. -/
theorem eq_of_forall_runs {f g : List Char → List Char}
    (hf : ∀ front c back, isTokenChar c = false → f (front ++ c :: back) = f front ++ c :: f back)
    (hg : ∀ front c back, isTokenChar c = false → g (front ++ c :: back) = g front ++ c :: g back)
    (h : ∀ run ∈ runs cs, f run = g run) : f cs = g cs := by
  induction hlength : cs.length using Nat.strong_induction_on generalizing cs with
  | _ length ih =>
    by_cases hrun : ∀ c ∈ cs, isTokenChar c
    · rw [runs_of_forall hrun] at h
      exact h cs List.mem_cons_self
    · push Not at hrun
      obtain ⟨c, hmem, hc⟩ := hrun
      have hc : isTokenChar c = false := Bool.eq_false_iff.2 hc
      obtain ⟨front, back, rfl⟩ := List.append_of_mem hmem
      rw [runs_append_cons hc, List.forall_mem_append] at h
      rw [List.length_append, List.length_cons] at hlength
      have hfront : f front = g front := ih front.length (by omega) h.1 rfl
      have hback : f back = g back := ih back.length (by omega) h.2 rfl
      rw [hf front c back hc, hg front c back hc, hfront, hback]

/-- Tokens stand apart in a text where each of them is a whole run. -/
def StandApart (names : List String) (cs : List Char) : Prop :=
  ∀ name ∈ names, ∀ run ∈ runs cs, name.toList <:+: run → run = name.toList

instance (names : List String) (cs : List Char) : Decidable (StandApart names cs) :=
  inferInstanceAs (Decidable (∀ name ∈ names, ∀ run ∈ runs cs,
    name.toList <:+: run → run = name.toList))

theorem StandApart.subset (h : StandApart names cs) {fewer : List String} (hsub : fewer ⊆ names) :
    StandApart fewer cs :=
  fun name hname ↦ h name (hsub hname)

/-! ## What tokens stand for in the end -/

/-- A text with the tokens in it filled in one after the other, each by its text as it is. -/
def substitute (tokens : Table String) (cs : List Char) : List Char :=
  tokens.foldl (fun cs entry ↦ Text.replaceAll entry.1.toList entry.2.toList cs) cs

/-- The tokens with what they stand for in the end, when those behind each are filled in. -/
def settled : Table String → Table String
  | [] => []
  | (token, text) :: later =>
    (token, String.ofList (substitute later text.toList)) :: settled later

/-- No token stands in the text of one that comes before it. -/
def NoneHeld (tokens : Table String) : Prop :=
  tokens.Pairwise fun entry later ↦ ¬later.1.toList <:+: entry.2.toList

instance (tokens : Table String) : Decidable (NoneHeld tokens) :=
  inferInstanceAs (Decidable (tokens.Pairwise _))

/-! ### Escaped texts -/

theorem escapeChar_of_isTokenChar (h : isTokenChar c) : Json.escapeChar c = [c] := by
  have hrange : 0x20 ≤ c.toNat := by
    rw [isTokenChar_iff, Text.isUpper_iff, Text.isDigit_iff, Text.eq_underscore_iff] at h
    omega
  unfold Json.escapeChar
  split
  case h_8 => rw [if_neg (Nat.not_lt.2 hrange)]
  all_goals exact absurd h (by decide)

theorem escape_of_forall_isTokenChar (h : ∀ c ∈ cs, isTokenChar c) : Json.escape cs = cs := by
  induction cs with
  | nil => rfl
  | cons c cs ih =>
    obtain ⟨hc, hcs⟩ := List.forall_mem_cons.1 h
    rw [Json.escape_cons, escapeChar_of_isTokenChar hc, ih hcs, List.singleton_append]

theorem prefix_of_prefix_escape {pat : List Char} (hpat : ∀ c ∈ pat, isTokenChar c)
    (h : pat <+: Json.escape cs) : pat <+: cs := by
  induction pat generalizing cs with
  | nil => exact List.nil_prefix
  | cons p pat ih =>
    obtain ⟨hp, hpat⟩ := List.forall_mem_cons.1 hpat
    cases cs with
    | nil => simp [Json.escape] at h
    | cons c cs =>
      rw [Json.escape_cons] at h
      rcases Json.escapeChar_cases c with ⟨hplain, -⟩ | ⟨spelled, hspelled, -⟩
      · rw [hplain, List.singleton_append, List.cons_prefix_cons] at h
        exact List.cons_prefix_cons.2 ⟨h.1, ih hpat h.2⟩
      · rw [hspelled, List.cons_append, List.cons_prefix_cons] at h
        exact absurd (h.1 ▸ hp) (by decide)

/-- No token begins in front of the first underscore. -/
theorem fillToken_append_of_notMem (hkey : IsToken key) (text : String) (hfront : '_' ∉ front)
    (rest : List Char) : fillToken key text (front ++ rest) = front ++ fillToken key text rest := by
  induction front with
  | nil => rfl
  | cons c front ih =>
    obtain ⟨hc, hfront⟩ := List.ne_and_not_mem_of_not_mem_cons hfront
    have hhere : ¬key.toList <+: c :: (front ++ rest) := hkey.not_prefix_cons hc.symm
    rw [List.cons_append, fillToken, Text.replaceAll_cons hkey.toList_ne_nil hhere, ← fillToken,
      ih hfront, List.cons_append]

/-- To fill in an escaped text is to escape the text that is filled in as it is. -/
theorem fillToken_escape (hkey : IsToken key) (text : String) (cs : List Char) :
    fillToken key text (Json.escape cs) =
      Json.escape (Text.replaceAll key.toList text.toList cs) := by
  have hne := hkey.toList_ne_nil
  induction hlength : cs.length using Nat.strong_induction_on generalizing cs with
  | _ length ih =>
    by_cases hhere : key.toList <+: cs
    · obtain ⟨rest, rfl⟩ := hhere
      have hpos : 0 < key.toList.length := List.length_pos_iff.2 hne
      have hrest : rest.length < length := by
        rw [← hlength, List.length_append]
        omega
      rw [Json.escape_append, escape_of_forall_isTokenChar hkey.isTokenChar, fillToken,
        Text.replaceAll_append_left hne, Text.replaceAll_append_left hne, Json.escape_append,
        ← ih rest.length hrest rest rfl, fillToken]
    · cases cs with
      | nil =>
        rw [Text.replaceAll_nil hne]
        exact Text.replaceAll_nil hne
      | cons c cs =>
        have hrest := ih cs.length (by simp [← hlength]) cs rfl
        have hescaped : ¬key.toList <+: Json.escape (c :: cs) :=
          fun h ↦ hhere (prefix_of_prefix_escape hkey.isTokenChar h)
        rw [Json.escape_cons] at hescaped
        rw [Text.replaceAll_cons hne hhere, Json.escape_cons, Json.escape_cons, ← hrest]
        rcases Json.escapeChar_cases c with ⟨hplain, -⟩ | ⟨spelled, hspelled, hnotMem, -⟩
        · rw [hplain, List.singleton_append] at hescaped ⊢
          exact Text.replaceAll_cons hne hescaped
        · rw [hspelled]
          exact fillToken_append_of_notMem hkey text (by simp [hnotMem]) _

theorem renderChars_escape (htable : ∀ entry ∈ table, IsToken entry.1) (cs : List Char) :
    renderChars table (Json.escape cs) = Json.escape (substitute table cs) := by
  induction table generalizing cs with
  | nil => rfl
  | cons entry table ih =>
    obtain ⟨hentry, htable⟩ := List.forall_mem_cons.1 htable
    rw [renderChars_cons, fillToken_escape hentry, ih htable]
    rfl

/-! ### Settled texts -/

theorem map_fst_settled (tokens : Table String) :
    (settled tokens).map Prod.fst = tokens.map Prod.fst := by
  induction tokens with
  | nil => rfl
  | cons entry later ih => rw [settled, List.map_cons, List.map_cons, ih]

theorem forall_mem_settled (p : String → Prop) :
    (∀ entry ∈ settled table, p entry.1) ↔ ∀ entry ∈ table, p entry.1 := by
  have hsettled := map_fst_settled table
  rw [← List.forall_mem_map, hsettled, List.forall_mem_map]

theorem increasing_settled (h : table.Increasing) : (settled table).Increasing := by
  have hkeys : (table.map Prod.fst).Pairwise (· < ·) := List.pairwise_map.2 h
  rw [← map_fst_settled] at hkeys
  exact List.pairwise_map.1 hkeys

theorem substitute_eq_self (htable : ∀ entry ∈ table, IsToken entry.1)
    (h : ∀ entry ∈ table, ¬entry.1.toList <:+: cs) : substitute table cs = cs := by
  induction table with
  | nil => rfl
  | cons entry table ih =>
    obtain ⟨hentry, htable⟩ := List.forall_mem_cons.1 htable
    obtain ⟨hhead, htail⟩ := List.forall_mem_cons.1 h
    rw [substitute, List.foldl_cons, Text.replaceAll_eq_self hentry.toList_ne_nil hhead]
    exact ih htable htail

theorem NoneHeld.settled_eq (h : NoneHeld table) (htable : ∀ entry ∈ table, IsToken entry.1) :
    settled table = table := by
  induction table with
  | nil => rfl
  | cons entry later ih =>
    obtain ⟨-, hlater⟩ := List.forall_mem_cons.1 htable
    obtain ⟨hhead, htail⟩ := List.pairwise_cons.1 h
    rw [settled, substitute_eq_self hlater hhead, String.ofList_toList, ih htail hlater]

/-! ## The rendering as one pass -/

theorem renderChars_token (htable : ∀ entry ∈ table, IsToken entry.1)
    (hkeys : (table.map Prod.fst).Nodup) (hentry : entry ∈ settled table)
    (halone : ∀ other ∈ table, other.1.toList <:+: entry.1.toList → other.1 = entry.1) :
    renderChars table entry.1.toList = Json.escape entry.2.toList := by
  induction table with
  | nil => simp [settled] at hentry
  | cons head later ih =>
    obtain ⟨hhead, hlater⟩ := List.forall_mem_cons.1 htable
    obtain ⟨haloneHead, haloneLater⟩ := List.forall_mem_cons.1 halone
    obtain ⟨hnotMem, hkeys⟩ := List.nodup_cons.1 hkeys
    rw [renderChars_cons]
    rcases List.mem_cons.1 hentry with rfl | hentry
    · have hfill : fillToken head.1 head.2 (head.1.toList ++ []) = Json.escape head.2.toList := by
        rw [fillToken, Text.replaceAll_append_left hhead.toList_ne_nil,
          Text.replaceAll_nil hhead.toList_ne_nil, List.append_nil]
      rw [List.append_nil] at hfill
      rw [hfill, renderChars_escape hlater, String.toList_ofList]
    · have hmem : entry.1 ∈ later.map Prod.fst := by
        rw [← map_fst_settled]
        exact List.mem_map_of_mem hentry
      have hfill : fillToken head.1 head.2 entry.1.toList = entry.1.toList := by
        apply Text.replaceAll_eq_self hhead.toList_ne_nil
        intro hstands
        exact hnotMem (haloneHead hstands ▸ hmem)
      rw [hfill, ih hlater hkeys hentry haloneLater]

theorem fillFrom_whole (htable : ∀ entry ∈ table, IsToken entry.1)
    (hkeys : (table.map Prod.fst).Nodup) (hentry : entry ∈ table)
    (halone : ∀ other ∈ table, other.1.toList <:+: entry.1.toList → other.1 = entry.1) :
    fillFrom table 0 entry.1.toList = Json.escape entry.2.toList := by
  have hhere : tokenAt? table (entry.1.toList ++ []) = some entry := by
    rw [List.append_nil]
    cases hfound : tokenAt? table entry.1.toList with
    | none => exact absurd List.prefix_rfl (tokenAt?_eq_none_iff.1 hfound entry hentry)
    | some other =>
      obtain ⟨hother, hfront⟩ := of_tokenAt? hfound
      have hkey : other.1 = entry.1 := halone other hother hfront.isInfix
      rw [List.inj_on_of_nodup_map hkeys hother hentry hkey]
  have hpass := fillFrom_token (htable entry hentry).toList_ne_nil hhere
  rwa [List.append_nil, fillFrom, List.append_nil] at hpass

theorem renderChars_run (htable : ∀ entry ∈ table, IsToken entry.1)
    (hkeys : (table.map Prod.fst).Nodup)
    (hrun : ∀ entry ∈ table, entry.1.toList <:+: run → run = entry.1.toList) :
    renderChars table run = fillFrom (settled table) 0 run := by
  by_cases hstands : ∃ entry ∈ settled table, entry.1.toList <:+: run
  · obtain ⟨entry, hentry, hinfix⟩ := hstands
    have hsettled : ∀ other ∈ settled table, other.1.toList <:+: run → run = other.1.toList :=
      (forall_mem_settled fun name ↦ name.toList <:+: run → run = name.toList).2 hrun
    obtain rfl := hsettled entry hentry hinfix
    have halone : ∀ other ∈ table, other.1.toList <:+: entry.1.toList → other.1 = entry.1 :=
      fun other hother hinside ↦ String.toList_inj.1 (hrun other hother hinside).symm
    rw [renderChars_token htable hkeys hentry halone]
    rw [← map_fst_settled] at hkeys
    have htokens := (forall_mem_settled IsToken).2 htable
    rw [fillFrom_whole htokens hkeys hentry fun other hother hinside ↦
      String.toList_inj.1 (hsettled other hother hinside).symm]
  · push Not at hstands
    have hnone := (forall_mem_settled fun name ↦ ¬name.toList <:+: run).1 hstands
    rw [fillFrom_eq_self hstands, renderChars_eq_self htable hnone]

theorem render_eq_onePass_settled (htable : ∀ entry ∈ table, IsToken entry.1)
    (hincreasing : table.Increasing) (h : StandApart (table.map Prod.fst) text.toList) :
    render table text = onePass (settled table) text := by
  have hsettled : ∀ entry ∈ settled table, IsToken entry.1 := (forall_mem_settled IsToken).2 htable
  have hchars : renderChars table text.toList = fillFrom (settled table) 0 text.toList := by
    apply eq_of_forall_runs
    · intro front c back hc
      exact renderChars_append_cons htable (not_of_isTokenChar_eq_false hc) front back
    · intro front c back hc
      exact fillFrom_append_cons hsettled hc front back
    · intro run hrun
      apply renderChars_run htable (Table.nodup_keys hincreasing)
      intro entry hentry
      exact h entry.1 (List.mem_map_of_mem hentry) run hrun
  rw [render, hchars, onePass]

/-! ## The tokens of the planner and of the pages -/

/-- No token stands in the name of another one. -/
theorem eq_of_infix_tokenNames :
    ∀ name ∈ tokenNames, ∀ other ∈ tokenNames, other.toList <:+: name.toList → other = name := by
  decide +kernel

/-- A literal that consists of a token holds a spelling of the text after the rendering, wherever it
stands. -/
def LiteralReads (tokens : Table String) (name text : String) : Prop :=
  ∀ front back : List Char, ∃ held : List Char,
    renderChars tokens (front ++ '"' :: (name.toList ++ '"' :: back)) =
      renderChars tokens front ++ '"' :: (held ++ '"' :: renderChars tokens back) ∧
    Json.readString (held ++ '"' :: renderChars tokens back) = .ok (text, renderChars tokens back)

theorem LiteralReads.unique {name other : String} (h : LiteralReads table name text)
    (hother : LiteralReads table name other) : text = other := by
  obtain ⟨held, hrendered, hread⟩ := h [] []
  obtain ⟨held', hrendered', hread'⟩ := hother [] []
  rw [hrendered, List.append_cancel_left_eq, List.cons.injEq] at hrendered'
  rw [hrendered'.2, hread'] at hread
  exact (Prod.mk.inj (Except.ok.inj hread)).1.symm

theorem standApart_name (hnames : tokens ⊆ tokenNames) (hkey : key ∈ tokenNames) :
    StandApart tokens key.toList := by
  intro name hname run hrun hstands
  rw [runs_of_forall (isToken_of_mem_tokenNames key hkey).isTokenChar, List.mem_singleton] at hrun
  subst hrun
  rw [eq_of_infix_tokenNames key hkey name (hnames hname) hstands]

theorem alone_of_names (hnames : ∀ entry ∈ table, entry.1 ∈ tokenNames) (hkey : key ∈ tokenNames) :
    ∀ other ∈ table, other.1.toList <:+: key.toList → other.1 = key :=
  fun other hother ↦ eq_of_infix_tokenNames key hkey other.1 (hnames other hother)

theorem literalReads_settled (hincreasing : table.Increasing)
    (hnames : ∀ entry ∈ table, entry.1 ∈ tokenNames) (hentry : entry ∈ settled table) :
    LiteralReads table entry.1 entry.2 := by
  have htable : ∀ entry ∈ table, IsToken entry.1 :=
    fun entry hentry ↦ isToken_of_mem_tokenNames _ (hnames entry hentry)
  have hkey : entry.1 ∈ tokenNames := (forall_mem_settled (· ∈ tokenNames)).2 hnames entry hentry
  intro front back
  refine ⟨Json.escape entry.2.toList, ?_, Json.readString_escape _ _⟩
  rw [renderChars_append_cons htable (by decide), renderChars_append_cons htable (by decide),
    renderChars_token htable (Table.nodup_keys hincreasing) hentry (alone_of_names hnames hkey)]

/-- The tokens are settled when each of them stands for the same text in the end. -/
theorem settled_eq_of_forall (hincreasing : table.Increasing)
    (h : ∀ name text final, (name, text) ∈ table → (name, final) ∈ settled table → final = text) :
    settled table = table := by
  apply Table.ext_lookup (increasing_settled hincreasing) hincreasing
  intro key
  have hkeys : ((settled table).lookup key).isSome ↔ (table.lookup key).isSome := by
    rw [Table.lookup_isSome_iff_mem, Table.lookup_isSome_iff_mem, map_fst_settled]
  cases hfinal : (settled table).lookup key with
  | none =>
    cases htext : table.lookup key with
    | none => rfl
    | some text => simp [hfinal, htext] at hkeys
  | some final =>
    cases htext : table.lookup key with
    | none => simp [hfinal, htext] at hkeys
    | some text => rw [h key text final (Table.mem_of_lookup htext) (Table.mem_of_lookup hfinal)]

/-- Rendering is one pass over a text whose tokens stand apart, with the texts that they stand for
in the end, and a literal that consists of a token reads back as that text. It is one pass with the
texts as they are given, and its literals read back as those, just when the tokens are settled. They
are when none of them holds a later one. -/
theorem render_one_pass (tokens : Table String) (hincreasing : tokens.Increasing)
    (hnames : ∀ entry ∈ tokens, entry.1 ∈ tokenNames) :
    (∀ text, StandApart (tokens.map Prod.fst) text.toList →
      render tokens text = onePass (settled tokens) text) ∧
    (∀ entry ∈ settled tokens, LiteralReads tokens entry.1 entry.2) ∧
    ((∀ text, StandApart (tokens.map Prod.fst) text.toList →
      render tokens text = onePass tokens text) ↔ settled tokens = tokens) ∧
    ((∀ entry ∈ tokens, LiteralReads tokens entry.1 entry.2) ↔ settled tokens = tokens) ∧
    (NoneHeld tokens → settled tokens = tokens) := by
  have htokens : ∀ entry ∈ tokens, IsToken entry.1 :=
    fun entry hentry ↦ isToken_of_mem_tokenNames _ (hnames entry hentry)
  have hkeys : tokens.map Prod.fst ⊆ tokenNames := List.forall_mem_map.2 hnames
  have hpass : ∀ text, StandApart (tokens.map Prod.fst) text.toList →
      render tokens text = onePass (settled tokens) text :=
    fun text ↦ render_eq_onePass_settled htokens hincreasing
  have hliterals : ∀ entry ∈ settled tokens, LiteralReads tokens entry.1 entry.2 :=
    fun entry ↦ literalReads_settled hincreasing hnames
  have hpassIff : (∀ text, StandApart (tokens.map Prod.fst) text.toList →
      render tokens text = onePass tokens text) ↔ settled tokens = tokens := by
    constructor
    · -- the name of a token alone is a text in which the tokens stand apart
      intro h
      apply settled_eq_of_forall hincreasing
      intro name text final htext hfinal
      have hname : name ∈ tokenNames := hnames _ htext
      have halone := alone_of_names hnames hname
      have hrendered : renderChars tokens name.toList = fillFrom tokens 0 name.toList :=
        String.ofList_injective (h name (standApart_name hkeys hname))
      have hescaped : Json.escape final.toList = Json.escape text.toList := by
        calc Json.escape final.toList
          _ = renderChars tokens name.toList :=
              (renderChars_token htokens (Table.nodup_keys hincreasing) hfinal halone).symm
          _ = fillFrom tokens 0 name.toList := hrendered
          _ = Json.escape text.toList :=
              fillFrom_whole htokens (Table.nodup_keys hincreasing) htext halone
      exact String.toList_inj.1 (Json.escape_injective hescaped)
    · intro h
      rwa [h] at hpass
  have hliteralsIff : (∀ entry ∈ tokens, LiteralReads tokens entry.1 entry.2) ↔
      settled tokens = tokens := by
    constructor
    · intro h
      apply settled_eq_of_forall hincreasing
      intro name text final htext hfinal
      exact (hliterals _ hfinal).unique (h _ htext)
    · intro h
      rwa [h] at hliterals
  exact ⟨hpass, hliterals, hpassIff, hliteralsIff, fun h ↦ h.settled_eq htokens⟩

theorem render_one_pass_bookshop :
    let tokens : Table String :=
      [("__APP_NAME__", "The \"__Bookshop__\""), ("__SUBHEAD__", "Sell books\n")]
    let text := "title: \"__APP_NAME__\", description: \"__SUBHEAD__\""
    (tokens.Increasing ∧ (∀ entry ∈ tokens, entry.1 ∈ tokenNames) ∧ NoneHeld tokens ∧
        StandApart (tokens.map Prod.fst) text.toList) ∧
      render tokens text = onePass tokens text ∧
      onePass tokens text =
        "title: \"The \\\"__Bookshop__\\\"\", description: \"Sell books\\n\"" ∧
      LiteralReads tokens "__APP_NAME__" "The \"__Bookshop__\"" := by
  intro tokens text
  have hincreasing : tokens.Increasing := by decide
  have hnames : ∀ entry ∈ tokens, entry.1 ∈ tokenNames := by decide
  have hnone : NoneHeld tokens := by decide
  have happart : StandApart (tokens.map Prod.fst) text.toList := by decide
  obtain ⟨-, -, hpass, hliterals, hsettled⟩ := render_one_pass tokens hincreasing hnames
  refine ⟨⟨hincreasing, hnames, hnone, happart⟩, ?_, by decide, ?_⟩
  · exact hpass.2 (hsettled hnone) text happart
  · exact hliterals.2 (hsettled hnone) ("__APP_NAME__", "The \"__Bookshop__\"") List.mem_cons_self

/-- A token that another one stands for is filled in as well, and of tokens that overlap in the text
the one that comes first in the table is filled in. -/
theorem render_rescans :
    (let tokens : Table String := [("__APP_NAME__", "__SUBHEAD__"), ("__SUBHEAD__", "Sell books")]
      let text := "title: \"__APP_NAME__\", description: \"__SUBHEAD__\""
      (tokens.Increasing ∧ ∀ entry ∈ tokens, entry.1 ∈ tokenNames) ∧
        onePass tokens text = "title: \"__SUBHEAD__\", description: \"Sell books\"" ∧
        render tokens text = "title: \"Sell books\", description: \"Sell books\"") ∧
    (let tokens : Table String := [("__APP_NAME__", "A"), ("__SUBHEAD__", "B")]
      let text := "\"__SUBHEAD__APP_NAME__\""
      (tokens.Increasing ∧ ∀ entry ∈ tokens, entry.1 ∈ tokenNames) ∧
        onePass tokens text = "\"BAPP_NAME__\"" ∧ render tokens text = "\"__SUBHEADA\"") := by
  decide

/-! ## The files of a project -/

/-- Wherever two underscores stand together, the whole run is a known token. -/
def IsKnownToken (run : List Char) : Prop :=
  ['_', '_'] <:+: run → run ∈ tokenNames.map String.toList

instance (run : List Char) : Decidable (IsKnownToken run) :=
  decidable_of_iff (['_', '_'] <:+: run → run ∈ tokenNames.map String.toList) Iff.rfl

theorem standApart_of_isKnownToken (h : ∀ run ∈ runs cs, IsKnownToken run) :
    StandApart tokenNames cs := by
  intro name hname run hrun hstands
  have hunderscores := (isToken_of_mem_tokenNames name hname).underscores.isInfix.trans hstands
  obtain ⟨other, hother, rfl⟩ := List.mem_map.1 (h run hrun hunderscores)
  rw [eq_of_infix_tokenNames other hother name hname hstands]

/-- A block of lines in which only known tokens stand. -/
structure IsTokenBlock (cs : List Char) : Prop where
  ended : cs.getLast? = some '\n'
  known : ∀ run ∈ runs cs, IsKnownToken run

instance (cs : List Char) : Decidable (IsTokenBlock cs) :=
  decidable_of_iff (cs.getLast? = some '\n' ∧ ∀ run ∈ runs cs, IsKnownToken run)
    ⟨fun h ↦ ⟨h.1, h.2⟩, fun h ↦ ⟨h.ended, h.known⟩⟩

theorem IsTokenBlock.append (h : IsTokenBlock front) (hback : IsTokenBlock back) :
    IsTokenBlock (front ++ back) := by
  obtain ⟨lines, rfl⟩ := List.getLast?_eq_some_iff.1 h.ended
  have hbreak : isTokenChar '\n' = false := by decide
  have hknown := h.known
  rw [runs_append_cons hbreak, List.forall_mem_append] at hknown
  constructor
  · rw [List.getLast?_append, hback.ended]
    rfl
  · rw [List.append_assoc, List.singleton_append, runs_append_cons hbreak, List.forall_mem_append]
    exact ⟨hknown.1, hback.known⟩

theorem isTokenBlock_pageBlocks :
    ∀ block ∈ Artifact.pageBlocks, IsTokenBlock (Text.lineChars block) :=
  Artifact.forall_pageBlocks (by decide +kernel)

theorem standApart_pageSource (route : Route) (onServer withFixtures : Bool) :
    StandApart tokenNames (Artifact.pageSource route onServer withFixtures).toList :=
  standApart_of_isKnownToken (Artifact.pageSource_of_blocks IsTokenBlock.append route onServer
    withFixtures isTokenBlock_pageBlocks).known

theorem isTokenBlock_of_mem_library {id : String} (h : (id, .text text) ∈ library) :
    IsTokenBlock text.toList := by
  simp only [library, List.mem_cons, Prod.mk.injEq, Template.text.injEq, reduceCtorEq, and_false,
    List.not_mem_nil, or_false] at h
  rcases h with ⟨-, rfl⟩ | ⟨-, rfl⟩ | ⟨-, rfl⟩ | ⟨-, rfl⟩ | ⟨-, rfl⟩ | ⟨-, rfl⟩ | ⟨-, rfl⟩ |
    ⟨-, rfl⟩
  all_goals
    simp only [nextConfig, compilerConfig, ambientTypes, rootLayout, button, databaseClient,
      seedScript, checkWorkflow, Text.toList_lines, Text.lineChars, List.flatMap_cons,
      List.flatMap_nil]
    repeat rw [String.toList_ofList]
    decide +kernel

/-- What is rendered with known tokens, where all of them would stand apart. -/
theorem render_of_standApart (hincreasing : table.Increasing)
    (hnames : ∀ entry ∈ table, entry.1 ∈ tokenNames) (h : StandApart tokenNames text.toList) :
    render table text = onePass (settled table) text := by
  apply render_eq_onePass_settled _ hincreasing
  · exact h.subset (List.forall_mem_map.2 hnames)
  · exact fun entry hentry ↦ isToken_of_mem_tokenNames _ (hnames entry hentry)

end Template

namespace AppSpec

open Template Artifact Scaffold

variable {spec : AppSpec} {file : PlannedFile}

theorem mem_tokenNames_of_mem_plan (hfile : file ∈ spec.plan.files) :
    ∀ entry ∈ file.tokens, entry.1 ∈ tokenNames := by
  intro entry hentry
  rcases mem_plan_files_iff.1 hfile with ⟨_, _, -, rfl⟩ | ⟨route, -, rfl⟩
  · rw [tokens_projectFile] at hentry
    exact mem_tokenNames_of_mem_commonTokens hentry
  · exact mem_tokenNames_of_mem_pageFile hentry

theorem increasing_commonTokens (spec : AppSpec) : spec.commonTokens.Increasing :=
  Table.increasing_ofList _

theorem increasing_tokens_of_mem_plan (hfile : file ∈ spec.plan.files) :
    file.tokens.Increasing := by
  rcases mem_plan_files_iff.1 hfile with ⟨_, _, -, rfl⟩ | ⟨route, -, rfl⟩
  · rw [tokens_projectFile]
    exact increasing_commonTokens spec
  · exact Table.increasing_insertAll _ (increasing_commonTokens spec)

/-- What is rendered for a planned file is one pass over its template or over the source of its
page, with what the tokens of the file stand for in the end. -/
theorem plannedContent_onePass (hfile : file ∈ spec.plan.files) :
    (∀ route, file.source = .page route → plannedContent spec.plan file =
      .ok (textBytes (onePass (settled (file.tokens.insertAll (pageTokens route)))
        (pageSource route spec.plan.rendersOnServer spec.plan.needsSamples)))) ∧
    ∀ id text, file.source = .template id → find? id = some (.text text) →
      plannedContent spec.plan file = .ok (textBytes (onePass (settled file.tokens) text)) := by
  have hnames := mem_tokenNames_of_mem_plan hfile
  have hincreasing := increasing_tokens_of_mem_plan hfile
  constructor
  · intro route hpage
    have hall : ∀ entry ∈ file.tokens.insertAll (pageTokens route), entry.1 ∈ tokenNames := by
      intro entry hentry
      rcases Table.mem_insertAll hentry with hown | hgiven
      · exact mem_tokenNames_of_mem_pageTokens hown
      · exact hnames entry hgiven
    rw [plannedContent_of_page _ hpage, pageModule,
      render_of_standApart (Table.increasing_insertAll _ hincreasing) hall
        (standApart_pageSource _ _ _)]
  · intro id text htemplate hfind
    have happart : StandApart tokenNames text.toList :=
      standApart_of_isKnownToken (isTokenBlock_of_mem_library (Table.mem_of_lookup hfind)).known
    rw [plannedContent, htemplate]
    simp only [hfind]
    rw [render_of_standApart hincreasing hnames happart]

end AppSpec

end WebScaffold
