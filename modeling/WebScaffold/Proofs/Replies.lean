import WebScaffold.Generator.Chat
import WebScaffold.Proofs.PrintedValues
import WebScaffold.Proofs.Spelling

/-!
# Replies of a chat service

A reply yields an error or the value that is told by the content of its first choice. Which of these
it is depends on its status, on the choices that its body spells, and on whether that content can be
read. Every reply that offers messages spells their contents, whatever these are.
-/

namespace WebScaffold

namespace Json

variable {α β : Type}

/-- A reader takes just this text, whatever comes behind it, and finds a value in it. -/
def FindsIn (read : Reader α) (text : List Char) (x : α) : Prop :=
  ∀ rest, read (text ++ rest) = .ok (x, rest)

/-! ## Texts -/

theorem findsIn_textReader (s : String) : FindsIn textReader (printString s) s := by
  intro rest
  have hshape : printString s ++ rest = '"' :: (escape s.toList ++ '"' :: rest) := by
    simp [printString]
  rw [hshape]
  exact readString_escape s rest

/-- A text, or null for its absence. -/
def ofText? (text? : Option String) : Json :=
  (text?.map Json.string).getD .null

theorem findsIn_optionReader (text? : Option String) :
    FindsIn (optionReader textReader) (printChars (ofText? text?)) text? := by
  intro rest
  cases text? with
  | none => rfl
  | some s =>
    have hread : textReader ('"' :: (escape s.toList ++ ['"'] ++ rest)) = .ok (s, rest) :=
      findsIn_textReader s rest
    exact bind_of_eq_ok hread _

theorem skimString_plain {c : Char} (hquote : c ≠ '"') (hbackslash : c ≠ '\\')
    (hcontrol : ¬c.toNat < 0x20) (fuel : Nat) (rest : List Char) :
    skimString (fuel + 1) (c :: rest) = skimString fuel rest := by
  rw [skimString, if_neg hcontrol]
  · exact fun h ↦ hquote h
  · exact fun h ↦ hbackslash h

theorem skimString_escapeChar (c : Char) (fuel : Nat) (rest : List Char) :
    skimString (fuel + 1) (escapeChar c ++ rest) = skimString fuel rest := by
  unfold escapeChar
  split
  case h_8 hquote hbackslash _ _ _ _ _ =>
    split_ifs with hcontrol
    · have hskim : skimEscape ('u' :: '0' :: '0' :: (hexPair c.toNat ++ rest)) = .ok rest :=
        bind_of_eq_ok (readHex_hexPair hcontrol rest) _
      exact bind_of_eq_ok hskim _
    · exact skimString_plain hquote hbackslash hcontrol fuel rest
  all_goals rfl

theorem skimString_escape {cs : List Char} {fuel : Nat} (h : cs.length < fuel)
    (rest : List Char) : skimString fuel (escape cs ++ '"' :: rest) = .ok rest := by
  induction fuel generalizing cs with
  | zero => exact absurd h (Nat.not_lt_zero _)
  | succ fuel ih =>
    cases cs with
    | nil => rfl
    | cons c cs =>
      rw [escape_cons, List.append_assoc, skimString_escapeChar]
      exact ih (Nat.lt_of_succ_lt_succ h)

theorem skim_printString (s : String) (rest : List Char) :
    skim (printString s ++ rest) = .ok rest := by
  have hshape : printString s ++ rest = '"' :: (escape s.toList ++ '"' :: rest) := by
    simp [printString]
  have hfuel : s.toList.length < (escape s.toList ++ '"' :: rest).length + 1 := by
    have hlength := length_le_length_escape s.toList
    rw [List.length_append]
    omega
  have hhead : skimHead ('"' :: (escape s.toList ++ '"' :: rest)) = .ok (none, rest) :=
    bind_of_eq_ok (skimString_escape hfuel rest) _
  rw [hshape, skim, skimFrom, bind_of_eq_ok hhead]
  rfl

/-! ## Lists -/

theorem exists_printChars_object (members : List (String × Json)) :
    ∃ more, printChars (.object members) = '{' :: more := by
  cases members with
  | nil => exact ⟨['}'], rfl⟩
  | cons member members => exact ⟨_, rfl⟩

theorem length_le_length_printItems (items : List Json) :
    items.length ≤ (printItems items).length := by
  induction items with
  | nil => exact Nat.le_refl 0
  | cons item items ih =>
    rw [printItems, List.length_append, List.length_cons, List.length_cons]
    omega

section

variable {item : Reader β} {encode : α → Json} {value : α → β}

theorem readMoreItems_printItems (hread : ∀ x, FindsIn item (printChars (encode x)) (value x))
    (hobject : ∀ x, ∃ more, printChars (encode x) = '{' :: more) {xs : List α} {fuel : Nat}
    (hfuel : xs.length < fuel) (rest : List Char) :
    readMoreItems item fuel (printItems (xs.map encode) ++ ']' :: rest) =
      .ok (xs.map value, rest) := by
  induction fuel generalizing xs with
  | zero => exact absurd hfuel (Nat.not_lt_zero _)
  | succ fuel ih =>
    cases xs with
    | nil => rfl
    | cons x xs =>
      obtain ⟨more, hmore⟩ := hobject x
      have hx := hread x (printItems (xs.map encode) ++ ']' :: rest)
      rw [hmore] at hx
      refine readMoreItems_succ_eq_ok_iff.2 (.inr ⟨_, '{', _, value x, _, xs.map value, rfl, ?_,
        by decide, hx, ih (Nat.lt_of_succ_lt_succ hfuel), rfl⟩)
      rw [hmore]
      simp [skipBlanks, isJsonBlank]

/-- A printed list of objects is read item by item. -/
theorem findsIn_listReader (hread : ∀ x, FindsIn item (printChars (encode x)) (value x))
    (hobject : ∀ x, ∃ more, printChars (encode x) = '{' :: more) (xs : List α) :
    FindsIn (listReader item) (printChars (.array (xs.map encode))) (xs.map value) := by
  intro rest
  cases xs with
  | nil => rfl
  | cons x xs =>
    obtain ⟨more, hmore⟩ := hobject x
    have hx := hread x (printItems (xs.map encode) ++ ']' :: rest)
    rw [hmore] at hx
    have hfuel : xs.length < (printItems (xs.map encode) ++ ']' :: rest).length + 1 := by
      have hlength := length_le_length_printItems (xs.map encode)
      rw [List.length_map] at hlength
      rw [List.length_append]
      omega
    have hitems : readItems item ('{' :: (more ++ (printItems (xs.map encode) ++ ']' :: rest))) =
        .ok (value x :: xs.map value, rest) :=
      readItems_eq_ok_iff.2 (.inr ⟨'{', _, value x, _, xs.map value, rfl, by decide, hx,
        readMoreItems_printItems hread hobject hfuel rest, rfl⟩)
    have hshape : printChars (.array ((x :: xs).map encode)) ++ rest =
        '[' :: '{' :: (more ++ (printItems (xs.map encode) ++ ']' :: rest)) := by
      simp [printChars, hmore]
    rw [hshape]
    exact hitems

end

theorem length_le_length_printMembers (members : List (String × Json)) :
    members.length ≤ (printMembers members).length := by
  induction members with
  | nil => exact Nat.le_refl 0
  | cons member members ih =>
    rw [printMembers, List.length_append, List.length_append, List.length_cons, List.length_cons]
    omega

/-! ## Records -/

namespace RecordReader

variable {type : RecordReader α}

/-- What a printed member does to a record: a field changes it, and any other is passed over. -/
inductive Changes (type : RecordReader α) : String × Json → (α → α) → Prop where
  | field {key : String} {v : Json} {read : Reader (α → α)} {change : α → α}
    (hfield : type.fields.lookup key = some read) (hread : FindsIn read (printChars v) change) :
    Changes type (key, v) change
  | skimmed {key : String} {v : Json} (hfield : type.fields.lookup key = none)
    (hskim : ∀ rest, skim (printChars v ++ rest) = .ok rest) : Changes type (key, v) id

/-- The fields that were read, behind a member. -/
def noted (type : RecordReader α) (seen : List String) (key : String) : List String :=
  if (type.fields.lookup key).isSome then key :: seen else seen

variable {seen : List String} {record : α} {rest : List Char} {fuel : Nat}
variable {members : List (String × Json)} {changes : List (α → α)}

theorem mem_noted_iff {key name : String} :
    name ∈ type.noted seen key ↔
      name ∈ seen ∨ name = key ∧ (type.fields.lookup key).isSome := by
  unfold noted
  split_ifs with hfield <;> simp [hfield, or_comm]

theorem Changes.readEntry {key : String} {v : Json} {change : α → α}
    (h : Changes type (key, v) change) (hseen : key ∉ seen) (record : α) (rest : List Char) :
    type.readEntry seen record (escape key.toList ++ '"' :: ':' :: (printChars v ++ rest)) =
      .ok ((type.noted seen key, change record), rest) := by
  rw [RecordReader.readEntry, bind_of_eq_ok (readString_escape key _)]
  cases h with
  | field hfield hread =>
    simp only [hfield, if_neg hseen, noted]
    exact bind_of_eq_ok (hread rest) _
  | skimmed hfield hskim =>
    simp only [hfield, noted]
    exact bind_of_eq_ok (hskim rest) _

/-- The members that are left: their keys are new, and with them every required field is there. -/
structure Left (type : RecordReader α) (seen : List String) (members : List (String × Json)) :
    Prop where
  nodup : (members.map Prod.fst).Nodup
  unseen : ∀ member ∈ members, member.1 ∉ seen
  required : ∀ name ∈ type.required,
    name ∈ seen ∨ name ∈ members.map Prod.fst ∧ (type.fields.lookup name).isSome

theorem Left.finish (h : type.Left seen []) (record : α) (rest : List Char) :
    type.finish seen record rest = .ok (record, rest) := by
  have hnone : type.required.find? (· ∉ seen) = none := by
    simpa using h.required
  rw [RecordReader.finish, hnone]

theorem Left.behind {member : String × Json} (h : type.Left seen (member :: members)) :
    type.Left (type.noted seen member.1) members := by
  obtain ⟨hkey, hnodup⟩ := List.nodup_cons.1 h.nodup
  refine ⟨hnodup, ?_, ?_⟩
  · intro other hother hmem
    rcases mem_noted_iff.1 hmem with hmem | ⟨hsame, -⟩
    · exact h.unseen other (List.mem_cons_of_mem member hother) hmem
    · exact hkey (hsame ▸ List.mem_map_of_mem hother)
  · intro name hname
    have hfound := h.required name hname
    rw [List.map_cons, List.mem_cons] at hfound
    rw [mem_noted_iff]
    grind

/-- A record after changes that are made one after the other. -/
def changed (record : α) (changes : List (α → α)) : α :=
  changes.foldl (fun found change ↦ change found) record

/-- The members behind one that was read change the record one after the other. -/
theorem readMoreEntries_printMembers (hchanges : List.Forall₂ (Changes type) members changes)
    (hleft : type.Left seen members) (hfuel : members.length < fuel) :
    type.readMoreEntries fuel seen record (printMembers members ++ '}' :: rest) =
      .ok (changed record changes, rest) := by
  induction hchanges generalizing seen record fuel with
  | nil =>
    obtain ⟨fuel, rfl⟩ := Nat.exists_eq_succ_of_ne_zero (Nat.ne_of_gt hfuel)
    exact hleft.finish record rest
  | @cons member change members changes hchange _ ih =>
    obtain ⟨key, v⟩ := member
    obtain ⟨fuel, rfl⟩ := Nat.exists_eq_succ_of_ne_zero (Nat.ne_of_gt (Nat.zero_lt_of_lt hfuel))
    have hfresh : key ∉ seen := hleft.unseen (key, v) List.mem_cons_self
    have hshape : printMembers ((key, v) :: members) ++ '}' :: rest =
        ',' :: '"' :: (escape key.toList ++ '"' :: ':' ::
          (printChars v ++ (printMembers members ++ '}' :: rest))) := by
      simp [printMembers, printString]
    rw [hshape]
    exact (bind_of_eq_ok (hchange.readEntry hfresh record _) _).trans
      (ih hleft.behind (Nat.lt_of_succ_lt_succ hfuel))

/-- A printed object is read member by member, if it has what the record requires. -/
theorem findsIn_reader (hchanges : List.Forall₂ (Changes type) members changes)
    (hleft : type.Left [] members) :
    FindsIn type.reader (printChars (.object members)) (changed type.start changes) := by
  intro rest
  cases hchanges with
  | nil => exact hleft.finish type.start rest
  | @cons member change members changes hchange hchanges =>
    obtain ⟨key, v⟩ := member
    have hfuel : members.length < (printMembers members ++ '}' :: rest).length + 1 := by
      have hlength := length_le_length_printMembers members
      rw [List.length_append]
      omega
    have hshape : printChars (.object ((key, v) :: members)) ++ rest =
        '{' :: '"' :: (escape key.toList ++ '"' :: ':' ::
          (printChars v ++ (printMembers members ++ '}' :: rest))) := by
      simp [printChars, printString]
    rw [hshape]
    exact (bind_of_eq_ok (hchange.readEntry List.not_mem_nil type.start _) _).trans
      (readMoreEntries_printMembers hchanges hleft.behind hfuel)

end RecordReader

end Json

namespace Chat

open Json

/-! ## What a service offers -/

def offeredMessage (message : String × Option String) : Json :=
  .object [("content", ofText? message.2), ("role", .string message.1)]

def offeredChoice (message : String × Option String) : Json :=
  .object [("message", offeredMessage message)]

/-- A reply's document that offers messages, each with a role and a content. -/
def offering (messages : List (String × Option String)) : Json :=
  .object [("choices", .array (messages.map offeredChoice))]

theorem findsIn_messageReader (message : String × Option String) :
    FindsIn messageReader.reader (printChars (offeredMessage message)) message.2 := by
  have hcontent : messageReader.Changes ("content", ofText? message.2) fun _ ↦ message.2 :=
    .field rfl fun rest ↦ bind_of_eq_ok (findsIn_optionReader message.2 rest) _
  have hrole : messageReader.Changes ("role", .string message.1) id :=
    .skimmed rfl (skim_printString message.1)
  exact RecordReader.findsIn_reader (.cons hcontent (.cons hrole .nil))
    ⟨by simp, by simp, by simp [messageReader]⟩

theorem findsIn_choiceReader (message : String × Option String) :
    FindsIn choiceReader.reader (printChars (offeredChoice message)) message.2 := by
  have hmessage : choiceReader.Changes ("message", offeredMessage message) fun _ ↦ message.2 :=
    .field rfl fun rest ↦ bind_of_eq_ok (findsIn_messageReader message rest) _
  exact RecordReader.findsIn_reader (.cons hmessage .nil)
    ⟨by simp, by simp, by simp [choiceReader]⟩

/-- The contents of all messages are read off a reply that offers them. -/
theorem parseWith_offering (messages : List (String × Option String)) :
    parseWith replyReader.reader (offering messages).print = .ok (messages.map Prod.snd) := by
  have hobject (message : String × Option String) :
      ∃ more, printChars (offeredChoice message) = '{' :: more :=
    exists_printChars_object [("message", offeredMessage message)]
  have hlist := findsIn_listReader findsIn_choiceReader hobject messages
  have hchoices : replyReader.Changes ("choices", .array (messages.map offeredChoice))
      fun _ ↦ messages.map Prod.snd :=
    .field rfl fun rest ↦ bind_of_eq_ok (hlist rest) _
  have hread : FindsIn replyReader.reader (printChars (offering messages))
      (messages.map Prod.snd) :=
    RecordReader.findsIn_reader (.cons hchoices .nil) ⟨by simp, by simp, by simp [replyReader]⟩
  rw [parseWith, print, String.toList_ofList, mapError_eq_ok_iff]
  refine expectEnd_eq_ok_iff.2 ⟨[], ?_, rfl⟩
  simpa using hread []

/-! ## What a reply yields -/

/-- The content that counts: that of the first choice. Without any it is an empty object. -/
inductive Content : List (Option String) → String → Prop where
  | first (content : String) (others : List (Option String)) :
    Content (some content :: others) content
  | absent (others : List (Option String)) : Content (none :: others) "{}"
  | none : Content [] "{}"

/-- The body of a reply, which two statuses rule out. -/
def bodyText (reply : HttpReply) : String :=
  if reply.status = 204 ∨ reply.status = 304 then "" else reply.body

/-- What comes of a request to an address, given the reply to it. It fails without a connection,
with a status of an error, with a body that spells no choices, and with a content that is no value
even when it is read loosely. -/
inductive Yields (url : String) : Option HttpReply → Except GeneratorError Json → Prop where
  | noConnection : Yields url none (.error (.http (.noConnection url)))
  | refusal {reply : HttpReply} (hstatus : 400 ≤ reply.status ∧ reply.status < 600) :
    Yields url (some reply) (.error (.http (.status reply.status reply.reason url)))
  | undecodable {reply : HttpReply} {error : ReadError}
    (hstatus : ¬(400 ≤ reply.status ∧ reply.status < 600))
    (hbody : parseWith replyReader.reader (bodyText reply) = .error error) :
    Yields url (some reply) (.error (.http .undecodable))
  | unreadable {reply : HttpReply} {choices : List (Option String)} {content : String}
    {error : LooseError} (hstatus : ¬(400 ≤ reply.status ∧ reply.status < 600))
    (hbody : parseWith replyReader.reader (bodyText reply) = .ok choices)
    (hcontent : Content choices content) (hread : readLoosely content = .error error) :
    Yields url (some reply) (.error (.parse error))
  | answer {reply : HttpReply} {choices : List (Option String)} {content : String} {v : Json}
    (hstatus : ¬(400 ≤ reply.status ∧ reply.status < 600))
    (hbody : parseWith replyReader.reader (bodyText reply) = .ok choices)
    (hcontent : Content choices content) (hread : readLoosely content = .ok v) :
    Yields url (some reply) (.ok v)

theorem content_getD (choices : List (Option String)) :
    Content choices ((choices.head?.bind id).getD "{}") := by
  rcases choices with _ | ⟨_ | content, others⟩
  · exact .none
  · exact .absent others
  · exact .first content others

theorem isErrorStatus_iff {status : Nat} :
    isErrorStatus status ↔ 400 ≤ status ∧ status < 600 := by
  simp [isErrorStatus]

theorem yields_readReply (url : String) (reply? : Option HttpReply) :
    Yields url reply? (readReply url reply?) := by
  cases reply? with
  | none => exact .noConnection
  | some reply =>
    by_cases hstatus : isErrorStatus reply.status
    · have hread : readReply url (some reply) = _ := if_pos hstatus
      rw [hread]
      exact .refusal (isErrorStatus_iff.1 hstatus)
    · have hbody : (if reply.status ∈ bodylessStatuses then "" else reply.body) =
          bodyText reply := by
        simp [bodyText, bodylessStatuses]
      have hstatus' : ¬(400 ≤ reply.status ∧ reply.status < 600) := mt isErrorStatus_iff.2 hstatus
      simp only [readReply, if_neg hstatus, hbody]
      cases hchoices : parseWith replyReader.reader (bodyText reply) with
      | error error => exact .undecodable hstatus' hchoices
      | ok choices =>
        simp only [readAnswer]
        cases hread : readLoosely ((choices.head?.bind id).getD "{}") with
        | error error => exact .unreadable hstatus' hchoices (content_getD choices) hread
        | ok v => exact .answer hstatus' hchoices (content_getD choices) hread

/-- Any value that has a text can be offered: printed into the first message, it is what the
request yields. -/
theorem yields_offering {v : Json} {added : Nat} {text : List Char}
    (htext : Written spelling nestingLimit v added text) {status : Nat}
    (hstatus : ¬(400 ≤ status ∧ status < 600) ∧ status ≠ 204 ∧ status ≠ 304)
    (url reason role : String) (others : List (String × Option String)) :
    Yields url (some ⟨status, reason, (offering ((role, some v.print) :: others)).print⟩)
      (.ok v) := by
  obtain ⟨herror, hempty, hempty'⟩ := hstatus
  have hbody : bodyText ⟨status, reason, (offering ((role, some v.print) :: others)).print⟩ =
      (offering ((role, some v.print) :: others)).print := by
    simp [bodyText, hempty, hempty']
  have hspells : Spells v ([] ++ (v.print.toList ++ [])) :=
    .plain (by simp) htext.readAll_printed.1 (by simp)
  rw [List.nil_append, List.append_nil] at hspells
  refine .answer herror ?_ (.first v.print (others.map Prod.snd)) hspells.readLoosely
  rw [hbody]
  exact parseWith_offering _

end Chat

end WebScaffold
