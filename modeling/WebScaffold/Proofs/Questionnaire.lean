import Mathlib.Algebra.GroupWithZero.Nat
import Mathlib.Data.List.Forall2
import WebScaffold.Proofs.Accepts
import WebScaffold.Proofs.Blank
import WebScaffold.Proofs.Except
import WebScaffold.Proofs.InputLines

/-!
# Interviews

What a questionnaire comes to, told from the lines of its input. Each question uses up the lines
that it refuses and the first one that answers it, and the next question goes on behind that. So an
input either holds an answer to every question in their order, and then it is read up to the last of
these, or it ends while a question is put, which the error names. The transcript is that of the
questions with a complaint for every line that was refused.
-/

namespace WebScaffold

/-! ## Questions in a row -/

/-- Goes on after something was said. -/
def Asked.after {α : Type} (said : String) (asked : Asked α) : Asked α :=
  ⟨said ++ asked.transcript, asked.rest, asked.result⟩

namespace Question

variable {α β : Type} {question : Question α} {next : α → Question β} {lines rest : List InputLine}
variable {said : String}

theorem bind_of_ok {a : α} (h : question lines = ⟨said, rest, .ok a⟩) :
    (question >>= next) lines = (next a rest).after said := by
  change andThen question next lines = _
  rw [andThen, h]
  rfl

theorem bind_of_error {error : QuestionError} (h : question lines = ⟨said, rest, .error error⟩) :
    (question >>= next) lines = ⟨said, rest, .error error⟩ := by
  change andThen question next lines = _
  rw [andThen, h]

instance : LawfulMonad Question :=
  LawfulMonad.mk' Question
    (by
      intro α question
      funext lines
      change andThen question (fun a ↦ ofExcept (.ok a)) lines = question lines
      rcases h : question lines with ⟨said, rest, error | a⟩ <;> simp [andThen, h, ofExcept])
    (by
      intro α β a next
      funext lines
      change andThen (ofExcept (.ok a)) next lines = next a lines
      simp [andThen, ofExcept])
    (by
      intro α β γ question next last
      funext lines
      change andThen (andThen question next) last lines =
        andThen question (fun a ↦ andThen (next a) last) lines
      rcases h : question lines with ⟨said, rest, error | a⟩
      · simp [andThen, h]
      · rcases hnext : next a rest with ⟨said', rest', error | b⟩ <;>
          simp [andThen, h, hnext, String.append_assoc])

end Question

/-! ## Occurrences of a text -/

namespace Text

variable {pattern front back : List Char}

/-- At how many places of a text another one begins. -/
def occurrences (pattern text : List Char) : Nat :=
  text.tails.countP fun tail ↦ decide (pattern <+: tail)

/-- No occurrence begins in a text and ends behind it. -/
def Detached (pattern text : List Char) : Prop :=
  ∀ tail ∈ text.tails, tail <+: pattern → tail = [] ∨ tail = pattern

instance : Decidable (Detached pattern front) :=
  inferInstanceAs (Decidable (∀ tail ∈ front.tails, tail <+: pattern → tail = [] ∨ tail = pattern))

theorem occurrences_append (hpattern : pattern ≠ []) (h : Detached pattern front)
    (back : List Char) :
    occurrences pattern (front ++ back) = occurrences pattern front + occurrences pattern back := by
  induction front with
  | nil => simp [occurrences, hpattern]
  | cons c front ih =>
    have hlater : Detached pattern front := fun tail htail ↦
      h tail (List.mem_cons_of_mem _ htail)
    have hhere : pattern <+: c :: (front ++ back) ↔ pattern <+: c :: front := by
      constructor
      · intro hprefix
        rcases List.prefix_or_prefix_of_prefix hprefix
          (List.prefix_append (c :: front) back) with hinside | hbeyond
        · exact hinside
        · rcases h _ List.mem_cons_self hbeyond with hnil | hsame
          · simp at hnil
          · rw [hsame]
      · intro hprefix
        exact hprefix.trans (List.prefix_append (c :: front) back)
    have htails (cs : List Char) : occurrences pattern (c :: cs) =
        occurrences pattern cs + if pattern <+: c :: cs then 1 else 0 := by
      simp [occurrences, List.countP_cons]
    rw [List.cons_append, htails, htails, ih hlater, if_congr hhere rfl rfl]
    omega

theorem occurrences_join {texts : List String} (hpattern : pattern ≠ [])
    (h : ∀ text ∈ texts, Detached pattern text.toList) :
    occurrences pattern (String.join texts).toList =
      (texts.map fun text ↦ occurrences pattern text.toList).sum := by
  induction texts with
  | nil => simp [occurrences, hpattern]
  | cons text texts ih =>
    obtain ⟨htext, htexts⟩ := List.forall_mem_cons.1 h
    rw [String.join_cons, String.toList_append, occurrences_append hpattern htext, ih htexts,
      List.map_cons, List.sum_cons]

end Text

namespace Questionnaire

/-! ## Questions and lines -/

/-- What is asked for: a text, in the stead of which a default may stand, or one of several
choices. -/
inductive Inquiry where
  | text (question : String) (default? : Option String)
  | choice (question : String) (choices : List String) (usual : String)

namespace Inquiry

def put : Inquiry → Question String
  | text question default? => requestLine question default?
  | choice question choices usual => requestChoice question choices usual

/-- The question as an error names it. -/
def title : Inquiry → String
  | text question _ => question
  | choice question choices _ => choiceQuestion question choices

def prompt : Inquiry → String
  | text question default? => promptText question default?
  | choice question choices usual => promptText (choiceQuestion question choices) (some usual)

/-- What is said of a line that is refused. -/
def complaint : Inquiry → String
  | text _ _ => "An answer is required.\n"
  | choice _ choices _ => "Please answer one of: " ++ ", ".intercalate choices ++ "\n"

/-- What is said when a number of lines are refused, before one answers or the input ends. -/
def said (inquiry : Inquiry) : Nat → List String
  | 0 => [inquiry.prompt]
  | refusals + 1 => inquiry.prompt :: inquiry.complaint :: said inquiry refusals

/-- The default of a choice is one of the choices. -/
def Sound : Inquiry → Prop
  | text _ _ => True
  | choice _ choices usual => usual ∈ choices ∧ Text.lower usual = usual

instance : (inquiry : Inquiry) → Decidable inquiry.Sound
  | text _ _ => isTrue trivial
  | choice _ choices usual =>
    inferInstanceAs (Decidable (usual ∈ choices ∧ Text.lower usual = usual))

end Inquiry

def IsBlankLine (line : String) : Prop :=
  ∀ c ∈ line.toList, Text.isBlank c

/-- The answer that a line gives: its text without the blanks around it, the choice that it names in
whatever case, or the default if it is blank. -/
inductive Gives : Inquiry → String → String → Prop
  | text (question : String) (default? : Option String) {line : String}
      (hfilled : ¬IsBlankLine line) : Gives (.text question default?) line (Text.trim line)
  | usualText (question usual : String) {line : String} (hblank : IsBlankLine line) :
      Gives (.text question (some usual)) line usual
  | choice (question : String) (choices : List String) (usual : String) {line : String}
      (hfilled : ¬IsBlankLine line) (hchoice : Text.lower (Text.trim line) ∈ choices) :
      Gives (.choice question choices usual) line (Text.lower (Text.trim line))
  | usualChoice (question : String) (choices : List String) (usual : String) {line : String}
      (hblank : IsBlankLine line) : Gives (.choice question choices usual) line usual

def Refuses (inquiry : Inquiry) (line : String) : Prop :=
  ∀ answer, ¬Gives inquiry line answer

/-- The lines that a question uses up: those that it refuses, and the one that gives the answer. -/
structure Round where
  refused : List String
  accepted : String
  answer : String

def Round.lines (round : Round) : List String :=
  round.refused ++ [round.accepted]

structure Settles (inquiry : Inquiry) (round : Round) : Prop where
  refused : ∀ line ∈ round.refused, Refuses inquiry line
  accepted : Gives inquiry round.accepted round.answer

/-! ## One question -/

section

variable {inquiry : Inquiry} {line answer : String} {rest : List InputLine}

theorem trim_eq_empty_iff : Text.trim line = "" ↔ IsBlankLine line := by
  rw [Text.trim, String.ofList_eq_empty_iff, Text.trimChars_eq_nil_iff, IsBlankLine]

theorem put_nil (inquiry : Inquiry) :
    inquiry.put [] = ⟨inquiry.prompt, [], .error (.inputClosed inquiry.title)⟩ := by
  cases inquiry <;> rfl

theorem put_cons_of_gives (hsound : inquiry.Sound) (h : Gives inquiry line answer) :
    inquiry.put (some line :: rest) = ⟨inquiry.prompt, rest, .ok answer⟩ := by
  cases h with
  | text question default? hfilled =>
    have htrim : Text.trim line ≠ "" := mt trim_eq_empty_iff.1 hfilled
    simp [Inquiry.put, requestLine, htrim, Inquiry.prompt]
  | usualText question usual hblank =>
    have htrim : Text.trim line = "" := trim_eq_empty_iff.2 hblank
    simp [Inquiry.put, requestLine, htrim, Inquiry.prompt]
  | choice question choices usual hfilled hchoice =>
    have htrim : Text.trim line ≠ "" := mt trim_eq_empty_iff.1 hfilled
    simp [Inquiry.put, requestChoice, choiceOf, htrim, hchoice, Inquiry.prompt]
  | usualChoice question choices usual hblank =>
    have htrim : Text.trim line = "" := trim_eq_empty_iff.2 hblank
    obtain ⟨husual, hlower⟩ := hsound
    simp [Inquiry.put, requestChoice, choiceOf, htrim, hlower, husual, Inquiry.prompt]

theorem put_cons_of_refuses (h : Refuses inquiry line) :
    inquiry.put (some line :: rest) =
      (inquiry.put rest).after (inquiry.prompt ++ inquiry.complaint) := by
  cases inquiry with
  | text question default? =>
    have hblank : IsBlankLine line := by
      by_contra hfilled
      exact h _ (.text question default? hfilled)
    have htrim : Text.trim line = "" := trim_eq_empty_iff.2 hblank
    cases default? with
    | none =>
      simp only [Inquiry.put, requestLine, htrim, ne_eq, not_true_eq_false, if_false]
      rfl
    | some usual => exact (h _ (.usualText question usual hblank)).elim
  | choice question choices usual =>
    have hfilled : ¬IsBlankLine line := fun hblank ↦
      h _ (.usualChoice question choices usual hblank)
    have hchoice : Text.lower (Text.trim line) ∉ choices := fun hchoice ↦
      h _ (.choice question choices usual hfilled hchoice)
    have htrim : Text.trim line ≠ "" := mt trim_eq_empty_iff.1 hfilled
    have hanswer : choiceOf usual line = Text.lower (Text.trim line) := by
      rw [choiceOf, if_neg htrim]
    rw [← hanswer] at hchoice
    have hgroup (a b c d e : String) : a ++ b ++ c ++ d ++ e = a ++ (b ++ c ++ d) ++ e := by
      simp only [String.append_assoc]
    simp only [Inquiry.put, requestChoice, if_neg hchoice, hgroup]
    rfl

/-- Refused lines are used up, with a complaint for each, until the question is put for the last
time. -/
theorem put_append {refused : List String} {last : List InputLine}
    {result : Except QuestionError String} (hrefused : ∀ line ∈ refused, Refuses inquiry line)
    (hrest : inquiry.put rest = ⟨inquiry.prompt, last, result⟩) :
    inquiry.put (refused.map some ++ rest) =
      ⟨String.join (inquiry.said refused.length), last, result⟩ := by
  induction refused with
  | nil =>
    rw [List.map_nil, List.nil_append, hrest]
    simp [Inquiry.said]
  | cons line refused ih =>
    obtain ⟨hline, hlater⟩ := List.forall_mem_cons.1 hrefused
    rw [List.map_cons, List.cons_append, put_cons_of_refuses hline, ih hlater]
    simp [Asked.after, Inquiry.said, String.append_assoc]

theorem put_of_settles (hsound : inquiry.Sound) {round : Round} (h : Settles inquiry round)
    (rest : List InputLine) :
    inquiry.put (round.lines.map some ++ rest) =
      ⟨String.join (inquiry.said round.refused.length), rest, .ok round.answer⟩ := by
  rw [Round.lines, List.map_append, List.append_assoc]
  exact put_append h.refused (put_cons_of_gives hsound h.accepted)

theorem put_of_refuses {refused : List String} (h : ∀ line ∈ refused, Refuses inquiry line) :
    inquiry.put (refused.map some) =
      ⟨String.join (inquiry.said refused.length), [], .error (.inputClosed inquiry.title)⟩ := by
  have hput := put_append h (put_nil inquiry)
  rwa [List.append_nil] at hput

/-- Either some line answers a question, or the input ends first. -/
theorem exists_settles_or_refuses (inquiry : Inquiry) (lines : List String) :
    (∃ round rest, Settles inquiry round ∧ lines = round.lines ++ rest) ∨
      ∀ line ∈ lines, Refuses inquiry line := by
  induction lines with
  | nil => simp
  | cons line lines ih =>
    by_cases hgives : ∃ answer, Gives inquiry line answer
    · obtain ⟨answer, hanswer⟩ := hgives
      exact .inl ⟨⟨[], line, answer⟩, lines, ⟨by simp, hanswer⟩, rfl⟩
    · have hline : Refuses inquiry line := not_exists.1 hgives
      rcases ih with ⟨round, rest, hround, rfl⟩ | hlines
      · refine .inl ⟨{ round with refused := line :: round.refused }, rest, ⟨?_, ?_⟩, rfl⟩
        · exact List.forall_mem_cons.2 ⟨hline, hround.refused⟩
        · exact hround.accepted
      · exact .inr (List.forall_mem_cons.2 ⟨hline, hlines⟩)

end

/-! ## Several questions -/

section

variable {inquiries done later : List Inquiry} {rounds : List Round} {refused : List String}
variable {inquiry : Inquiry}

def transcript (inquiries : List Inquiry) (rounds : List Round) : List String :=
  (List.zipWith (fun inquiry round ↦ inquiry.said round.refused.length) inquiries rounds).flatten

theorem mapM_put_of_settles (hsound : ∀ inquiry ∈ inquiries, inquiry.Sound)
    (h : List.Forall₂ Settles inquiries rounds) (rest : List InputLine) :
    inquiries.mapM Inquiry.put ((rounds.flatMap Round.lines).map some ++ rest) =
      ⟨String.join (transcript inquiries rounds), rest, .ok (rounds.map Round.answer)⟩ := by
  induction h with
  | nil => rfl
  | @cons inquiry round inquiries rounds hround _ ih =>
    obtain ⟨hfirst, hlater⟩ := List.forall_mem_cons.1 hsound
    rw [List.mapM_cons, List.flatMap_cons, List.map_append, List.append_assoc,
      Question.bind_of_ok (put_of_settles hfirst hround _), Question.bind_of_ok (ih hlater)]
    change (⟨_, _, _⟩ : Asked (List String)) = ⟨_, _, _⟩
    simp [Asked.after, transcript, Question.ofExcept, pure]

theorem mapM_put_of_refuses (hsound : ∀ inquiry ∈ done, inquiry.Sound)
    (h : List.Forall₂ Settles done rounds) (hrefused : ∀ line ∈ refused, Refuses inquiry line)
    (later : List Inquiry) :
    (done ++ inquiry :: later).mapM Inquiry.put
        ((rounds.flatMap Round.lines).map some ++ refused.map some) =
      ⟨String.join (transcript done rounds ++ inquiry.said refused.length), [],
        .error (.inputClosed inquiry.title)⟩ := by
  rw [List.mapM_append, Question.bind_of_ok (mapM_put_of_settles hsound h _), List.mapM_cons,
    Question.bind_of_error (Question.bind_of_error (put_of_refuses hrefused))]
  rw [Asked.after, String.join_append]

/-- Either all questions are answered in their order, or the input ends at one of them. -/
theorem exists_rounds (inquiries : List Inquiry) (lines : List String) :
    (∃ rounds rest, List.Forall₂ Settles inquiries rounds ∧
        lines = rounds.flatMap Round.lines ++ rest) ∨
      ∃ done inquiry later rounds refused, inquiries = done ++ inquiry :: later ∧
        List.Forall₂ Settles done rounds ∧ (∀ line ∈ refused, Refuses inquiry line) ∧
          lines = rounds.flatMap Round.lines ++ refused := by
  induction inquiries generalizing lines with
  | nil => exact .inl ⟨[], lines, .nil, rfl⟩
  | cons inquiry inquiries ih =>
    rcases exists_settles_or_refuses inquiry lines with ⟨round, behind, hround, rfl⟩ | hrefused
    · rcases ih behind with ⟨rounds, rest, hrounds, rfl⟩ |
        ⟨done, reached, later, rounds, refused, rfl, hrounds, hrefused, rfl⟩
      · exact .inl ⟨round :: rounds, rest, .cons hround hrounds, by simp⟩
      · exact .inr ⟨inquiry :: done, reached, later, round :: rounds, refused, rfl,
          .cons hround hrounds, hrefused, by simp⟩
    · exact .inr ⟨[], inquiry, inquiries, [], lines, rfl, .nil, hrefused, rfl⟩

end

/-! ## The seven questions -/

def inquiries : List Inquiry :=
  [.text "Describe your app idea" none,
    .choice "Platform" platformChoices "web",
    .choice "Sign-in" signInChoices "none",
    .choice "Database" databaseChoices "none",
    .text "Key features (comma separated)" (some ""),
    .text "Output directory" (some defaultDirectory),
    .choice "Deploy target" targetChoices "github_pages"]

/-- The answers that are made of those to the single questions, with the target that the last one
names. -/
def answersOf (target : DeployTarget) (given : List String) : Answers :=
  { idea := given.getD 0 ""
    outDirectory := given.getD 5 ""
    target
    hints := Table.ofList
      [("blueprint", .string (Variant.name (blueprintOf (given.getD 1 "")))),
        ("auth", .string (given.getD 2 "")), ("database", .string (given.getD 3 "")),
        ("features", Json.ofStrings (splitFeatures (given.getD 4 ""))),
        ("deploy", .string (given.getD 6 ""))] }

theorem ask_eq_bind : ask = inquiries.mapM Inquiry.put >>= fun given ↦ do
    let target ← Question.ofExcept ((DeployTarget.parse (given.getD 6 "")).mapError .target)
    return answersOf target given := by
  simp [ask, inquiries, Inquiry.put, answersOf]

theorem sound_of_mem_inquiries : ∀ inquiry ∈ inquiries, inquiry.Sound := by
  decide +kernel

/-! ## Complaints -/

/-- A question says something once for every line that it refuses, or never. -/
@[mk_iff]
structure Inquiry.Says (inquiry : Inquiry) (pattern : List Char) (times : Nat) : Prop where
  detached_prompt : Text.Detached pattern inquiry.prompt.toList
  prompt : Text.occurrences pattern inquiry.prompt.toList = 0
  detached_complaint : Text.Detached pattern inquiry.complaint.toList
  complaint : Text.occurrences pattern inquiry.complaint.toList = times

instance (inquiry : Inquiry) (pattern : List Char) (times : Nat) :
    Decidable (inquiry.Says pattern times) :=
  decidable_of_iff' _ (Inquiry.says_iff inquiry pattern times)

section

variable {inquiry : Inquiry} {rounds : List Round} {pattern : List Char} {times : Nat}

theorem detached_said (h : inquiry.Says pattern times) (refusals : Nat) :
    ∀ text ∈ inquiry.said refusals, Text.Detached pattern text.toList := by
  induction refusals with
  | zero => exact List.forall_mem_singleton.2 h.detached_prompt
  | succ refusals ih =>
    exact List.forall_mem_cons.2
      ⟨h.detached_prompt, List.forall_mem_cons.2 ⟨h.detached_complaint, ih⟩⟩

theorem occurrences_said (h : inquiry.Says pattern times) (refusals : Nat) :
    ((inquiry.said refusals).map fun text ↦ Text.occurrences pattern text.toList).sum =
      refusals * times := by
  induction refusals with
  | zero => simp [Inquiry.said, h.prompt]
  | succ refusals ih =>
    rw [Inquiry.said, List.map_cons, List.map_cons, List.sum_cons, List.sum_cons, ih, h.prompt,
      h.complaint, Nat.succ_mul]
    omega

/-- A transcript holds what is said of refused lines as often as lines were refused. -/
theorem occurrences_transcript {inquiries : List Inquiry} {times : Inquiry → Nat}
    (hpattern : pattern ≠ []) (hcounts : ∀ inquiry ∈ inquiries, inquiry.Says pattern (times inquiry))
    (hrounds : List.Forall₂ Settles inquiries rounds) :
    Text.occurrences pattern (String.join (transcript inquiries rounds)).toList =
      (List.zipWith (fun inquiry round ↦ round.refused.length * times inquiry)
        inquiries rounds).sum := by
  have hdetached : ∀ text ∈ transcript inquiries rounds, Text.Detached pattern text.toList := by
    induction hrounds with
    | nil => simp [transcript]
    | cons _ _ ih =>
      obtain ⟨hfirst, hlater⟩ := List.forall_mem_cons.1 hcounts
      exact List.forall_mem_append.2 ⟨detached_said hfirst _, ih hlater⟩
  rw [Text.occurrences_join hpattern hdetached]
  induction hrounds with
  | nil => rfl
  | cons _ _ ih =>
    obtain ⟨hfirst, hlater⟩ := List.forall_mem_cons.1 hcounts
    have hlast := (List.forall_mem_append.1 hdetached).2
    change ((_ ++ _ : List String).map _).sum = _
    rw [List.map_append, List.sum_append, occurrences_said hfirst]
    exact congrArg _ (ih hlater hlast)

end

/-! ## Interviews -/

/-- What is said of a text that is missing. -/
def demand : List Char :=
  "An answer is required.".toList

/-- How the complaint about a wrong choice begins. -/
def reminder : List Char :=
  "Please answer one of".toList

def Inquiry.demands : Inquiry → Nat
  | text _ _ => 1
  | choice _ _ _ => 0

def Inquiry.reminders : Inquiry → Nat
  | text _ _ => 0
  | choice _ _ _ => 1

theorem says_of_mem_inquiries : ∀ inquiry ∈ inquiries,
    inquiry.Says demand inquiry.demands ∧ inquiry.Says reminder inquiry.reminders := by
  decide +kernel

/-- A question with a default lets every line pass. -/
theorem refused_eq_nil {question usual : String} {round : Round}
    (h : Settles (.text question (some usual)) round) : round.refused = [] := by
  apply List.eq_nil_iff_forall_not_mem.2
  intro line hline
  by_cases hblank : IsBlankLine line
  · exact h.refused line hline _ (.usualText question usual hblank)
  · exact h.refused line hline _ (.text question _ hblank)

theorem Gives.filled {question line answer : String} (h : Gives (.text question none) line answer) :
    answer ≠ "" ∧ Text.trim answer = answer := by
  cases h with
  | text _ _ hfilled =>
    constructor
    · exact mt trim_eq_empty_iff.1 hfilled
    · rw [Text.trim, Text.trim, String.toList_ofList, Text.trimChars_trimChars]

theorem Gives.mem_choices {question usual line answer : String} {choices : List String}
    (h : Gives (.choice question choices usual) line answer) (husual : usual ∈ choices) :
    answer ∈ choices := by
  cases h with
  | choice _ _ _ _ hchoice => exact hchoice
  | usualChoice _ _ _ _ => exact husual

theorem filled_of_mem_splitFeatures (line : String) :
    ∀ feature ∈ splitFeatures line, feature ≠ "" ∧ Text.trim feature = feature := by
  intro feature hfeature
  obtain ⟨piece, hpiece, rfl⟩ := List.mem_map.1 hfeature
  obtain ⟨hmem, hfilled⟩ := List.mem_filter.1 hpiece
  obtain ⟨part, -, rfl⟩ := List.mem_map.1 hmem
  constructor
  · simpa using hfilled
  · rw [Text.trim, String.toList_ofList, Text.trimChars_trimChars]

/-- The rounds of an interview in which every question is answered. -/
structure Interview where
  idea : Round
  platform : Round
  signIn : Round
  database : Round
  features : Round
  directory : Round
  target : Round

namespace Interview

def rounds (interview : Interview) : List Round :=
  [interview.idea, interview.platform, interview.signIn, interview.database, interview.features,
    interview.directory, interview.target]

/-- The questions are answered one after the other by the lines of an input, and the last answer
leaves some lines over. -/
structure Fits (interview : Interview) (lines rest : List String) : Prop where
  settles : List.Forall₂ Settles inquiries interview.rounds
  lines : lines = interview.rounds.flatMap Round.lines ++ rest

/-- What is passed on of an interview, and what is said in its course. -/
structure Yields (interview : Interview) (answers : Answers) (said : String) : Prop where
  idea : answers.idea = interview.idea.answer
  idea_filled : answers.idea ≠ "" ∧ Text.trim answers.idea = answers.idea
  outDirectory : answers.outDirectory = interview.directory.answer
  target : DeployTarget.parse interview.target.answer = .ok answers.target
  deploy_hint : answers.hints.lookup "deploy" = some (.string interview.target.answer)
  platform_hint : answers.hints.lookup "blueprint" =
    some (encodeVariant (if interview.platform.answer = "desktop" then Blueprint.electronApp
      else Blueprint.webApp))
  auth_hint : answers.hints.lookup "auth" = some (.string interview.signIn.answer)
  auth_allowed : Schema.Accepts (.string interview.signIn.answer) (AppSpec.choice AuthMode)
  database_hint : answers.hints.lookup "database" = some (.string interview.database.answer)
  database_allowed : Schema.Accepts (.string interview.database.answer) (AppSpec.choice Database)
  features_hint : answers.hints.lookup "features" =
    some (Json.ofStrings (splitFeatures interview.features.answer))
  features_filled : ∀ feature ∈ splitFeatures interview.features.answer,
    feature ≠ "" ∧ Text.trim feature = feature
  demands : Text.occurrences demand said.toList = interview.idea.refused.length
  reminders : Text.occurrences reminder said.toList =
    interview.platform.refused.length + interview.signIn.refused.length +
      interview.database.refused.length + interview.target.refused.length

variable {interview : Interview} {lines rest : List String}

theorem exists_eq_rounds {rounds : List Round} (h : List.Forall₂ Settles inquiries rounds) :
    ∃ interview : Interview, interview.rounds = rounds := by
  have hlength : rounds.length = 7 := h.length_eq.symm
  match rounds, hlength with
  | [idea, platform, signIn, database, features, directory, target], _ =>
    exact ⟨⟨idea, platform, signIn, database, features, directory, target⟩, rfl⟩

/-- Every choice of a target is the name of one. -/
theorem Fits.exists_target (h : interview.Fits lines rest) :
    ∃ target, DeployTarget.parse interview.target.answer = .ok target := by
  have hknown : ∀ name ∈ targetChoices, (DeployTarget.parse name).toOption.isSome := by decide
  have hsettles := h.settles
  simp only [inquiries, rounds, List.forall₂_cons] at hsettles
  obtain ⟨-, -, -, -, -, -, htarget, -⟩ := hsettles
  exact exists_eq_ok_of_isSome (hknown _ (htarget.accepted.mem_choices (by decide)))

/-- An input that answers every question is read up to the last answer. -/
theorem Fits.ask_eq (h : interview.Fits lines rest) {target : DeployTarget}
    (htarget : DeployTarget.parse interview.target.answer = .ok target) :
    ask (lines.map some) =
      ⟨String.join (transcript inquiries interview.rounds), rest.map some,
        .ok (answersOf target (interview.rounds.map Round.answer))⟩ := by
  have hasked := mapM_put_of_settles sound_of_mem_inquiries h.settles (rest.map some)
  have hgiven : (interview.rounds.map Round.answer).getD 6 "" = interview.target.answer := rfl
  rw [← List.map_append, ← h.lines] at hasked
  rw [ask_eq_bind, Question.bind_of_ok hasked, hgiven, htarget]
  change (⟨_ ++ "", _, _⟩ : Asked Answers) = _
  rw [String.append_empty]
  rfl

theorem Fits.yields (h : interview.Fits lines rest) {target : DeployTarget}
    (htarget : DeployTarget.parse interview.target.answer = .ok target) :
    interview.Yields (answersOf target (interview.rounds.map Round.answer))
      (String.join (transcript inquiries interview.rounds)) := by
  have hsettles := h.settles
  simp only [inquiries, rounds, List.forall₂_cons] at hsettles
  obtain ⟨hidea, -, hsignIn, hdatabase, hfeatures, hdirectory, -, -⟩ := hsettles
  have hhint (key : String) := Table.lookup_ofList
    [("blueprint", encodeVariant (blueprintOf interview.platform.answer)),
      ("auth", .string interview.signIn.answer), ("database", .string interview.database.answer),
      ("features", Json.ofStrings (splitFeatures interview.features.answer)),
      ("deploy", .string interview.target.answer)] key
  have hsignIns : ∀ name ∈ signInChoices, name ∈ Variant.names AuthMode := by decide
  have hdatabases : ∀ name ∈ databaseChoices, name ∈ Variant.names Database := by decide
  have hdemands := occurrences_transcript (by decide)
    (fun inquiry hinquiry ↦ (says_of_mem_inquiries inquiry hinquiry).1) h.settles
  have hreminders := occurrences_transcript (by decide)
    (fun inquiry hinquiry ↦ (says_of_mem_inquiries inquiry hinquiry).2) h.settles
  exact {
    idea := rfl
    idea_filled := hidea.accepted.filled
    outDirectory := rfl
    target := htarget
    deploy_hint := hhint "deploy"
    platform_hint := hhint "blueprint"
    auth_hint := hhint "auth"
    auth_allowed := ⟨_, hsignIns _ (hsignIn.accepted.mem_choices (by decide)), rfl⟩
    database_hint := hhint "database"
    database_allowed := ⟨_, hdatabases _ (hdatabase.accepted.mem_choices (by decide)), rfl⟩
    features_hint := hhint "features"
    features_filled := filled_of_mem_splitFeatures interview.features.answer
    demands := by
      rw [hdemands]
      simp [inquiries, rounds, Inquiry.demands, refused_eq_nil hfeatures, refused_eq_nil hdirectory]
    reminders := by
      rw [hreminders]
      simp [inquiries, rounds, Inquiry.reminders, Nat.add_assoc] }

end Interview

/-- The questions up to one are answered, and behind that answer the input ends without another. -/
structure BreaksOff (lines : List String) (done : List Inquiry) (inquiry : Inquiry)
    (rounds : List Round) (refused : List String) : Prop where
  reached : ∃ later, inquiries = done ++ inquiry :: later
  settles : List.Forall₂ Settles done rounds
  refuses : ∀ line ∈ refused, Refuses inquiry line
  lines : lines = rounds.flatMap Round.lines ++ refused

theorem BreaksOff.ask_eq {lines refused : List String} {done : List Inquiry} {inquiry : Inquiry}
    {rounds : List Round} (h : BreaksOff lines done inquiry rounds refused) :
    ask (lines.map some) =
      ⟨String.join (transcript done rounds ++ inquiry.said refused.length), [],
        .error (.inputClosed inquiry.title)⟩ := by
  obtain ⟨later, hlater⟩ := h.reached
  have hsound : ∀ inquiry ∈ done, inquiry.Sound := fun inquiry hinquiry ↦
    sound_of_mem_inquiries inquiry (hlater ▸ List.mem_append_left _ hinquiry)
  have hasked := mapM_put_of_refuses hsound h.settles h.refuses later
  rw [← hlater, ← List.map_append, ← h.lines] at hasked
  rw [ask_eq_bind, Question.bind_of_error hasked]

end Questionnaire

end WebScaffold
