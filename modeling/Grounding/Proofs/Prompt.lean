import Grounding.Prompt

/-!
# The last user message of a prompt

A list of messages either has no user message, or it splits around its last one
(`Prompt.splits_or_none`). `Prompt.SplitsAt` is such a split, and the lemmas beside it say what the
views of a prompt are there: the last user message, and what replacing it gives.

`Prompt.Retexts` relates a prompt to one that differs in the text of the last user message only;
where there is none, a user message without metadata has been appended. What `augmentUserMessage`
gives is related so (`retexts_augmentUserMessage`), and nothing else is (`Retexts.unique`). A second
change starts from the message that the first one has left, so that two changes are one
(`Retexts.trans`) and nothing is appended twice.

Main statement: `views_agree`. The message that is looked up, the messages that count as history and
the message whose text is changed are found by three searches, which stop at the same place.
-/

set_option autoImplicit false
set_option relaxedAutoImplicit false

namespace Grounding.Prompt

/-! ### Splits around the last user message -/

/-- A list of messages around its last user message. -/
structure SplitsAt (messages before : List Message) (message : Message) (after : List Message) :
    Prop where
  eq_append : messages = before ++ message :: after
  isUser : message.isUser = true
  last : ∀ other ∈ after, other.isUser = false

theorem splits_or_none (messages : List Message) :
    (∃ before message after, SplitsAt messages before message after) ∨
      ∀ message ∈ messages, message.isUser = false := by
  induction messages with
  | nil => exact Or.inr fun _ hmem ↦ absurd hmem List.not_mem_nil
  | cons first rest ih =>
    rcases ih with ⟨before, message, after, rfl, huser, hlast⟩ | hnone
    · exact Or.inl ⟨first :: before, message, after, rfl, huser, hlast⟩
    · cases hfirst : first.isUser with
      | true => exact Or.inl ⟨[], first, rest, rfl, hfirst, hnone⟩
      | false => exact Or.inr (List.forall_mem_cons.mpr ⟨hfirst, hnone⟩)

theorem replaceLast?_of_none {messages : List Message}
    (h : ∀ message ∈ messages, message.isUser = false) (replace : Message → Message) :
    replaceLast? replace messages = none := by
  induction messages with
  | nil => rfl
  | cons first rest ih =>
    obtain ⟨hfirst, hrest⟩ := List.forall_mem_cons.mp h
    rw [replaceLast?, ih hrest, hfirst]
    rfl

/-- In a list without a user message the replacement is appended. -/
theorem replaceUserMessage_of_none {messages : List Message}
    (h : ∀ message ∈ messages, message.isUser = false) (replace : Message → Message) :
    replaceUserMessage replace messages = messages ++ [replace { role := .user }] := by
  rw [replaceUserMessage, replaceLast?_of_none h]
  rfl

/-- A prompt without a user message has an empty one. -/
theorem userMessage_of_none {prompt : Prompt}
    (h : ∀ message ∈ prompt.messages, message.isUser = false) :
    prompt.userMessage = { role := .user } := by
  have hfind : prompt.messages.reverse.find? Message.isUser = none :=
    List.find?_eq_none.mpr fun message hmem ↦ by simp [h message (List.mem_reverse.mp hmem)]
  rw [userMessage, hfind]
  rfl

/-- Where no user message is, all messages are history. -/
theorem splitHistory_of_none {messages : List Message}
    (h : ∀ message ∈ messages, message.isUser = false) : splitHistory messages = messages := by
  have hany : messages.any Message.isUser = false :=
    List.any_eq_false.mpr fun message hmem ↦ by simp [h message hmem]
  rw [splitHistory, hany]
  rfl

namespace SplitsAt

variable {messages before after : List Message} {message : Message}

theorem replaceLast?_eq (h : SplitsAt messages before message after)
    (replace : Message → Message) :
    replaceLast? replace messages = some (before ++ replace message :: after) := by
  obtain ⟨rfl, huser, hlast⟩ := h
  induction before with
  | nil =>
    rw [List.nil_append, replaceLast?, replaceLast?_of_none hlast, huser]
    rfl
  | cons first rest ih =>
    rw [List.cons_append, replaceLast?, ih]
    rfl

/-- The last user message is replaced in its place. -/
theorem replaceUserMessage_eq (h : SplitsAt messages before message after)
    (replace : Message → Message) :
    replaceUserMessage replace messages = before ++ replace message :: after := by
  rw [replaceUserMessage, h.replaceLast?_eq]
  rfl

theorem userMessage_eq {prompt : Prompt} (h : SplitsAt prompt.messages before message after) :
    prompt.userMessage = message := by
  obtain ⟨hmessages, huser, hlast⟩ := h
  have hfind : after.reverse.find? Message.isUser = none :=
    List.find?_eq_none.mpr fun other hmem ↦ by simp [hlast other (List.mem_reverse.mp hmem)]
  rw [userMessage, hmessages, List.reverse_append, List.reverse_cons, List.append_assoc,
    List.find?_append, hfind, List.singleton_append, List.find?_cons_of_pos huser]
  rfl

/-- The history are the messages before the last user message. -/
theorem splitHistory_eq (h : SplitsAt messages before message after) :
    splitHistory messages = before := by
  obtain ⟨rfl, huser, hlast⟩ := h
  have hany : (before ++ message :: after).any Message.isUser = true :=
    List.any_eq_true.mpr ⟨message, by simp, huser⟩
  have hskip : ∀ other ∈ after.reverse, (!other.isUser) = true :=
    fun other hmem ↦ by simp [hlast other (List.mem_reverse.mp hmem)]
  rw [splitHistory, if_pos hany, List.reverse_append, List.reverse_cons, List.append_assoc,
    List.dropWhile_append_of_pos hskip, List.singleton_append,
    List.dropWhile_cons_of_neg (by simp [huser]), List.tail_cons, List.reverse_reverse]

/-- A message with another text is split off as the message itself. -/
theorem withText (h : SplitsAt messages before message after) (text : String) :
    SplitsAt (before ++ message.withText text :: after) before (message.withText text) after :=
  ⟨rfl, h.isUser, h.last⟩

end SplitsAt

/-! ### Another text -/

/-- Two prompts that differ in the text of the last user message only. Where the first one has no
user message, one without metadata has been appended. -/
structure Retexts (old : Prompt) (text : String) (new : Prompt) : Prop where
  options_eq : new.options = old.options
  replaced : ∀ before message after, SplitsAt old.messages before message after →
    new.messages = before ++ message.withText text :: after
  appended : (∀ message ∈ old.messages, message.isUser = false) →
    new.messages = old.messages ++ [{ role := .user, text }]

theorem retexts_augmentUserMessage (prompt : Prompt) (text : String) :
    prompt.Retexts text (prompt.augmentUserMessage text) where
  options_eq := rfl
  replaced _ _ _ h := h.replaceUserMessage_eq _
  appended h := replaceUserMessage_of_none h _

namespace Retexts

variable {old middle new : Prompt} {text first second : String}

/-- However the old prompt is made, the new one has its last user message with the new text. -/
theorem exists_splitsAt (h : old.Retexts text new) :
    ∃ before message after, SplitsAt new.messages before message after ∧ message.text = text := by
  rcases splits_or_none old.messages with ⟨before, message, after, hsplit⟩ | hnone
  · rw [h.replaced before message after hsplit]
    exact ⟨before, _, after, hsplit.withText text, rfl⟩
  · rw [h.appended hnone]
    exact ⟨old.messages, _, [], ⟨rfl, rfl, by simp⟩, rfl⟩

theorem userMessage_text (h : old.Retexts text new) : new.userMessage.text = text := by
  obtain ⟨before, message, after, hsplit, htext⟩ := h.exists_splitsAt
  rw [hsplit.userMessage_eq, htext]

/-- The history before the message stays the same. -/
theorem splitHistory_eq (h : old.Retexts text new) :
    splitHistory new.messages = splitHistory old.messages := by
  rcases splits_or_none old.messages with ⟨before, message, after, hsplit⟩ | hnone
  · rw [h.replaced before message after hsplit, hsplit.splitHistory_eq]
    exact (hsplit.withText text).splitHistory_eq
  · rw [h.appended hnone, splitHistory_of_none hnone]
    exact SplitsAt.splitHistory_eq ⟨rfl, rfl, by simp⟩

/-- There is one prompt with the new text. -/
theorem unique {other : Prompt} (h : old.Retexts text new) (hother : old.Retexts text other) :
    new = other := by
  have hoptions : new.options = other.options := h.options_eq.trans hother.options_eq.symm
  have hmessages : new.messages = other.messages := by
    rcases splits_or_none old.messages with ⟨before, message, after, hsplit⟩ | hnone
    · rw [h.replaced before message after hsplit, hother.replaced before message after hsplit]
    · rw [h.appended hnone, hother.appended hnone]
  cases new
  cases other
  simp_all

/-- Of two changes only the second one is left. -/
theorem trans (hfirst : old.Retexts first middle) (hsecond : middle.Retexts second new) :
    old.Retexts second new where
  options_eq := hsecond.options_eq.trans hfirst.options_eq
  replaced before message after hsplit := by
    refine hsecond.replaced before (message.withText first) after ?_
    rw [hfirst.replaced before message after hsplit]
    exact hsplit.withText first
  appended hnone := by
    refine hsecond.replaced old.messages { role := .user, text := first } [] ?_
    rw [hfirst.appended hnone]
    exact ⟨rfl, rfl, by simp⟩

end Retexts

/-! ### Agreement -/

/-- If there is a user message, the messages are the history, the user message and others that are
not of the user, and another text goes into that message, where it stands. Otherwise the user
message is an empty one, all messages are history, and a message with the text comes last. In both
cases the text is that of the new user message, its history is the old one, and a further text takes
the place of the first. -/
theorem views_agree (prompt : Prompt) (text : String) :
    ((∃ message ∈ prompt.messages, message.isUser = true) →
      ∃ rest, prompt.messages = splitHistory prompt.messages ++ prompt.userMessage :: rest ∧
        prompt.userMessage.isUser = true ∧ (∀ other ∈ rest, other.isUser = false) ∧
        (prompt.augmentUserMessage text).messages =
          splitHistory prompt.messages ++ { prompt.userMessage with text } :: rest) ∧
    ((∀ message ∈ prompt.messages, message.isUser = false) →
      prompt.userMessage = { role := .user, text := "", metadata := [] } ∧
        splitHistory prompt.messages = prompt.messages ∧
        (prompt.augmentUserMessage text).messages =
          prompt.messages ++ [{ role := .user, text, metadata := [] }]) ∧
    (prompt.augmentUserMessage text).userMessage.text = text ∧
    splitHistory (prompt.augmentUserMessage text).messages = splitHistory prompt.messages ∧
    ∀ second, (prompt.augmentUserMessage text).augmentUserMessage second =
      prompt.augmentUserMessage second := by
  have hretexts := retexts_augmentUserMessage prompt text
  refine ⟨?_, fun hnone ↦ ?_, hretexts.userMessage_text, hretexts.splitHistory_eq, fun second ↦ ?_⟩
  · rintro ⟨message, hmem, huser⟩
    rcases splits_or_none prompt.messages with ⟨before, last, after, hsplit⟩ | hnone
    · rw [hsplit.splitHistory_eq, hsplit.userMessage_eq]
      exact ⟨after, hsplit.eq_append, hsplit.isUser, hsplit.last,
        hretexts.replaced before last after hsplit⟩
    · rw [hnone message hmem] at huser
      cases huser
  · exact ⟨userMessage_of_none hnone, splitHistory_of_none hnone, hretexts.appended hnone⟩
  · exact (hretexts.trans (retexts_augmentUserMessage _ second)).unique
      (retexts_augmentUserMessage prompt second)

end Grounding.Prompt
