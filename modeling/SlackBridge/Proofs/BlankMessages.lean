import SlackBridge.Proofs.InteractionTable
import SlackBridge.Proofs.MarkupPasses
import SlackBridge.Proofs.ReplyAddress

/-!
# Messages without content

An inbox turns away an event whose text is blank and an interaction whose choice is empty. Both
checks come before the text of the message is settled, so they leave gaps: an event may hold nothing
but markup that is taken out later, and what was chosen may be blank without being empty. There are
no other gaps.
-/

namespace SlackBridge.Proofs

open Dialogue Slack Text

/-! ### Texts that show nothing -/

/-- The text consists of blanks and of links with blank labels. -/
inductive ShowsNothing : List Char → Prop
  | nil : ShowsNothing []
  | blank {c : Char} {cs : List Char} (hc : isBlank c = true) (hcs : ShowsNothing cs) :
      ShowsNothing (c :: cs)
  | link {l : Link} {cs : List Char} (hl : l.IsLabelled) (hlabel : ∀ c ∈ l.label, isBlank c = true)
      (hcs : ShowsNothing cs) : ShowsNothing (l.chars ++ cs)

lemma visible_cons_of_blank {c : Char} (hc : isBlank c = true) (cs : List Char) :
    visible (c :: cs) = visible cs := by
  rw [← List.singleton_append, visible_append, visible_of_blank, List.nil_append]
  intro d hd
  rwa [List.mem_singleton.mp hd]

/-- A blank does not begin a link. -/
lemma unwrapLinks_blank {c : Char} (hc : isBlank c = true) (cs : List Char) :
    unwrapLinks (c :: cs) = c :: unwrapLinks cs := by
  apply unwrapLinks_cons
  apply labelledLink?_cons_of_ne
  rintro rfl
  exact absurd hc (by decide)

lemma showsNothing_of_visible {cs : List Char} (h : visible (unwrapLinks cs) = []) :
    ShowsNothing cs := by
  -- what follows a link is shorter
  induction hn : cs.length using Nat.strong_induction_on generalizing cs with
  | _ n ih =>
    subst hn
    cases hread : labelledLink? cs with
    | some read =>
      obtain ⟨label, after⟩ := read
      have hshort := length_lt_of_labelledLink? hread
      obtain ⟨l, hl, -, rfl⟩ := labelledLink?_eq_some_iff.mp hread
      rw [unwrapLinks_link hl, visible_append, List.append_eq_nil_iff] at h
      exact .link hl ((visible_eq_nil_iff _).mp h.1) (ih _ hshort h.2 rfl)
    | none =>
      cases cs with
      | nil => exact .nil
      | cons c cs =>
        rw [unwrapLinks_cons hread, visible_eq_nil_iff, List.forall_mem_cons] at h
        exact .blank h.1 (ih _ (Nat.lt_succ_self _) ((visible_eq_nil_iff _).mpr h.2) rfl)

/-- Nothing is left to see of a text without its links exactly if it shows nothing. -/
lemma visible_unwrapLinks_eq_nil_iff (cs : List Char) :
    visible (unwrapLinks cs) = [] ↔ ShowsNothing cs := by
  refine ⟨showsNothing_of_visible, fun h => ?_⟩
  induction h with
  | nil => rw [unwrapLinks_nil, visible_of_blank (List.forall_mem_nil _)]
  | blank hc _ ih => rw [unwrapLinks_blank hc, visible_cons_of_blank hc, ih]
  | link hl hlabel _ ih => rw [unwrapLinks_link hl, visible_append, visible_of_blank hlabel, ih,
      List.append_nil]

/-- A text that comes out blank comes out empty, since its ends are solid. -/
lemma sanitize_eq_empty_of_blank {users : List String} {text : String}
    (h : ∀ c ∈ (sanitize users text).toList, isBlank c = true) : sanitize users text = "" := by
  have hsolid : EndsSolid (sanitize users text).toList := by
    rw [toList_sanitize]
    exact endsSolid_trimChars _
  by_contra hne
  exact not_endsSolid_of_blank (fun hnil => hne (String.toList_eq_nil_iff.mp hnil)) h hsolid

/-- A text comes out empty exactly if it shows nothing once the mentions of the bot are gone. -/
lemma sanitize_eq_empty_iff (users : List String) (text : String) :
    sanitize users text = "" ↔ ShowsNothing (dropMentions (isBotOf users) text.toList) := by
  rw [← visible_unwrapLinks_eq_nil_iff, ← visible_trimChars, ← toList_sanitize, visible_eq_nil_iff]
  refine ⟨fun h => ?_, sanitize_eq_empty_of_blank⟩
  rw [h]
  exact List.forall_mem_nil _

/-! ### What a message says -/

/-- The body passes the check for blank or empty texts, and still leaves a text without content: an
event shows nothing apart from mentions of the bot, or a choice that is not empty is blank. -/
inductive LeavesNothing (contentType : Option String) (body : Bytes) : String → Prop
  | event {p : EventPayload} {e : MessageEvent} {text : String} {users : List String}
      (hkind : contentType.map essence = some "application/json")
      (hread : EventPayload.read? body = some p) (hevent : p.event = some e)
      (hwritten : WrittenByPerson e text) (husers : AddressedAs p users)
      (hnothing : ShowsNothing (dropMentions (isBotOf users) text.toList)) :
      LeavesNothing contentType body ""
  | choice {s : Press} {text : String}
      (hkind : contentType.map essence = some "application/x-www-form-urlencoded")
      (hsubmits : Submits (Form.fields body) (.press s)) (hpicked : s.picked = some (some text))
      (hne : text ≠ "") (hblank : ∀ c ∈ text.toList, isBlank c = true) :
      LeavesNothing contentType body text

section Messages

variable {i : Inbox} {contentType : Option String} {body : Bytes} {m : Message}

/-- Messages come in bodies of two types. -/
lemma read_of_message (hm : (i.classify contentType body).result = .ok (.message m)) :
    (contentType.map essence = some "application/json" ∧
      Means i (EventPayload.read? body) (.ok (.message m))) ∨
    (contentType.map essence = some "application/x-www-form-urlencoded" ∧
      ∃ s, Submits (Form.fields body) s ∧ Settles i s (.ok (.message m))) := by
  unfold Inbox.classify at hm
  cases hkind : contentType.map essence with
  | none =>
    rw [hkind] at hm
    cases hm
  | some kind =>
    rw [hkind, Option.getD_some] at hm
    split at hm
    · refine .inl ⟨rfl, (payloadResult_eq_iff _ _).mp ?_⟩
      split at hm
      · cases hm
      next hread =>
        rw [hread]
        exact hm
    · obtain ⟨s, hs⟩ := exists_submits body
      rw [readForm_of_submits hs] at hm
      exact .inr ⟨rfl, s, hs, (submissionReading_eq_iff i s _).mp hm⟩
    · cases hm

/-- A message that reaches the bot says something, unless its body leaves nothing to say: an event
may consist of mentions of the bot and of links without a visible label, and what was chosen in an
interaction may be blank. -/
theorem message_says_something (hm : (i.classify contentType body).result = .ok (.message m)) :
    (∃ c ∈ m.text.toList, isBlank c = false) ∨ LeavesNothing contentType body m.text := by
  by_cases hvisible : ∃ c ∈ m.text.toList, isBlank c = false
  · exact .inl hvisible
  right
  have hblank : ∀ c ∈ m.text.toList, isBlank c = true := by
    intro c hc
    by_contra hsolid
    exact hvisible ⟨c, hc, Bool.not_eq_true _ ▸ hsolid⟩
  rcases read_of_message hm with ⟨hkind, hmeans⟩ | ⟨hkind, s, hsubmits, hsettles⟩
  · generalize hpayload : EventPayload.read? body = payload at hmeans
    cases hmeans with
    | @message p e text user users hc he hwritten hheard huser hne husers =>
      have hempty : sanitize users text = "" := sanitize_eq_empty_of_blank hblank
      dsimp only
      rw [hempty]
      exact .event hkind hpayload he hwritten husers ((sanitize_eq_empty_iff _ _).mp hempty)
  · cases hsettles with
    | message hpicked hne => exact .choice hkind hsubmits hpicked hne hblank

theorem message_says_something_of_mention :
    (channelInbox.classify (some "application/json") mentionBody).result =
      .ok (.message ⟨"hi", "U1_C2_1.5", "slack", ⟨some "C2", some "1.5", ["B1"]⟩⟩) ∧
    ((∃ c ∈ "hi".toList, isBlank c = false) ∨
      LeavesNothing (some "application/json") mentionBody "hi") := by
  have hm : (channelInbox.classify (some "application/json") mentionBody).result =
      .ok (.message ⟨"hi", "U1_C2_1.5", "slack", ⟨some "C2", some "1.5", ["B1"]⟩⟩) := by
    apply eq_ok_of_toOption
    decide +kernel
  exact ⟨hm, message_says_something hm⟩

/-- A button that stands for a blank. -/
def blankButtonBody : Bytes :=
  Text.utf8 <| "payload=\x7b\"user\":\x7b\"id\":\"U1\"\x7d," ++
    "\"actions\":[\x7b\"type\":\"button\",\"value\":\" \"\x7d]\x7d"

/-- The bot is mentioned, and nothing else is said. -/
def bareMentionBody : Bytes :=
  Text.utf8 <| "\x7b\"event\":\x7b\"type\":\"app_mention\",\"user\":\"U1\"," ++
    "\"text\":\"<@B1>\"\x7d,\"authed_users\":[\"B1\"]\x7d"

/-- Both gaps are there: a blank choice and a bare mention become messages. -/
theorem blank_messages_of_gaps :
    (channelInbox.classify (some "application/x-www-form-urlencoded") blankButtonBody).result =
      .ok (.message ⟨" ", "U1", "slack", ⟨none, none, ["U1"]⟩⟩) ∧
    (channelInbox.classify (some "application/json") bareMentionBody).result =
      .ok (.message ⟨"", "U1", "slack", ⟨none, none, ["B1"]⟩⟩) ∧
    ¬∀ (i : Inbox) (contentType : Option String) (body : Bytes) (m : Message),
      (i.classify contentType body).result = .ok (.message m) →
        ∃ c ∈ m.text.toList, isBlank c = false := by
  have hbutton : (channelInbox.classify (some "application/x-www-form-urlencoded")
      blankButtonBody).result = .ok (.message ⟨" ", "U1", "slack", ⟨none, none, ["U1"]⟩⟩) := by
    apply eq_ok_of_toOption
    decide +kernel
  have hmention : (channelInbox.classify (some "application/json") bareMentionBody).result =
      .ok (.message ⟨"", "U1", "slack", ⟨none, none, ["B1"]⟩⟩) := by
    apply eq_ok_of_toOption
    decide +kernel
  refine ⟨hbutton, hmention, fun h => ?_⟩
  obtain ⟨c, hc, -⟩ := h _ _ _ _ hmention
  exact List.not_mem_nil hc

end Messages

end SlackBridge.Proofs
