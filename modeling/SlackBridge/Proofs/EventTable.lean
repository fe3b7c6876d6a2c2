import Mathlib.Tactic.Common
import SlackBridge.Proofs.TextForms
import SlackBridge.Slack.Inbox

/-!
# The table of events

What a JSON body means to an inbox, as a table: a handshake, a message for the bot, or one of two
reasons for not acting. `Means` is the table; it names the conditions on the fields of an event, and
every body falls under exactly one line of it.
-/

namespace SlackBridge.Proofs

open Dialogue Slack

/-- A person wrote the message, and it says something. -/
structure WrittenByPerson (e : MessageEvent) (text : String) : Prop where
  kind : e.kind = "message" ∨ e.kind = "app_mention"
  holds : e.text = some text
  notBlank : Text.trim text ≠ ""
  botId : e.botId = none
  subtype : e.subtype = none ∨ e.subtype = some "thread_broadcast" ∨
    e.subtype = some "file_share"

/-- The message is addressed to the bot, or is in the channel that it listens to. -/
def IsHeard (listening : Option String) (e : MessageEvent) : Prop :=
  e.channelType = some "im" ∨ e.kind = "app_mention" ∨
    ∃ c, listening = some c ∧ e.channel = some c

/-- The ids under which an event addresses the bot. -/
inductive AddressedAs (p : EventPayload) : List String → Prop
  | authed {users : List String} (h : p.authedUsers = some users) : AddressedAs p users
  | authorized {user : String} {rest : List (Option String)} (h : p.authedUsers = none)
      (ha : p.authorizations = some user :: rest) : AddressedAs p [user]
  | nobody (h : p.authedUsers = none)
      (ha : ∀ user rest, p.authorizations ≠ some user :: rest) : AddressedAs p []

/-- What a payload of the Events API means. A body that is no such payload is malformed. -/
inductive Means (i : Inbox) : Option EventPayload → Except Unprocessable Delivery → Prop
  | malformed : Means i none (.error .malformedJson)
  | challenge {p : EventPayload} {text : String} (hc : p.challenge = some text) :
      Means i (some p) (.ok (.challenge text))
  | message {p : EventPayload} {e : MessageEvent} {text user : String} {users : List String}
      (hc : p.challenge = none) (he : p.event = some e) (hwritten : WrittenByPerson e text)
      (hheard : IsHeard i.channel e) (huser : e.user = some user) (hne : user ≠ "")
      (husers : AddressedAs p users) :
      Means i (some p) (.ok (.message {
        text := sanitize users text
        sender := conversationKey i.granularity user e.channel (e.threadTs.or e.ts)
        inputChannel := "slack"
        metadata := ⟨e.channel, e.threadTs.or e.ts, users⟩ }))
  | unheard {p : EventPayload} {e : MessageEvent} {text : String} {reason : IgnoreReason}
      (hc : p.challenge = none) (he : p.event = some e) (hwritten : WrittenByPerson e text)
      (hunheard : ¬IsHeard i.channel e) (hreason : reason.text = "Channel not supported.") :
      Means i (some p) (.ok (.ignored reason))
  | other {p : EventPayload} {reason : IgnoreReason} (hc : p.challenge = none)
      (hother : ∀ e text, p.event = some e → WrittenByPerson e text →
        IsHeard i.channel e ∧ ∀ user, e.user = some user → user = "")
      (hreason : reason.text = "Bot message delivered.") :
      Means i (some p) (.ok (.ignored reason))

/-! ### Conditions on an event -/

lemma isUserMessage_iff (e : MessageEvent) :
    e.isUserMessage = true ↔ ∃ text, WrittenByPerson e text := by
  unfold MessageEvent.isUserMessage MessageEvent.messageKinds MessageEvent.humanSubtypes
  simp only [Bool.and_eq_true, List.contains_iff_mem, List.mem_cons, List.not_mem_nil, or_false,
    Option.any_eq_true, Bool.not_eq_true', Option.isNone_iff_eq_none, Option.all_eq_true,
    ← Bool.not_eq_true, ← trim_eq_empty_iff]
  constructor
  · rintro ⟨⟨⟨hkind, text, htext, hblank⟩, hbot⟩, hsubtype⟩
    refine ⟨text, hkind, htext, hblank, hbot, ?_⟩
    cases hs : e.subtype with
    | none => exact .inl rfl
    | some subtype =>
      rcases hsubtype subtype hs with rfl | rfl
      · exact .inr (.inl rfl)
      · exact .inr (.inr rfl)
  · rintro ⟨text, hkind, htext, hblank, hbot, hsubtype⟩
    refine ⟨⟨⟨hkind, text, htext, hblank⟩, hbot⟩, fun subtype hs => ?_⟩
    rcases hsubtype with h | h | h
    · rw [h] at hs
      cases hs
    · rw [h] at hs
      cases hs
      exact .inl rfl
    · rw [h] at hs
      cases hs
      exact .inr rfl

lemma isHeard_iff (listening : Option String) (e : MessageEvent) :
    e.isHeard listening = true ↔ IsHeard listening e := by
  unfold MessageEvent.isHeard MessageEvent.isDirectMessage MessageEvent.isAppMention IsHeard
  simp only [Bool.or_eq_true, beq_iff_eq, Option.any_eq_true, or_assoc]

lemma addressedAs_botUsers (p : EventPayload) : AddressedAs p p.botUsers := by
  unfold EventPayload.botUsers
  cases hauthed : p.authedUsers with
  | some users => exact .authed hauthed
  | none =>
    match ha : p.authorizations with
    | [] => exact .nobody hauthed fun user rest h => by rw [ha] at h; cases h
    | none :: rest => exact .nobody hauthed fun user rest h => by rw [ha] at h; cases h
    | some user :: rest => exact .authorized hauthed ha

lemma AddressedAs.eq_botUsers {p : EventPayload} {users : List String}
    (h : AddressedAs p users) : users = p.botUsers := by
  unfold EventPayload.botUsers
  cases h with
  | authed h => rw [h]
  | authorized h ha =>
    rw [h, ha]
    rfl
  | nobody h ha =>
    rw [h]
    match hauthorizations : p.authorizations with
    | [] => rfl
    | none :: rest => rfl
    | some user :: rest => exact absurd hauthorizations (ha user rest)

lemma present?_eq_none_iff (s : Option String) :
    present? s = none ↔ ∀ text, s = some text → text = "" := by
  unfold present?
  simp only [Option.filter_eq_none_iff, decide_eq_true_eq, ne_eq, not_not]

lemma present?_of_ne {text : String} (h : text ≠ "") : present? (some text) = some text :=
  Option.filter_some_pos (decide_eq_true h)

/-! ### Lines of the table -/

/-- What is read of a payload, where there is one. -/
def payloadResult (i : Inbox) : Option EventPayload → Except Unprocessable Delivery
  | none => .error .malformedJson
  | some p => (i.readEventPayload p).result

section Lines

variable {i : Inbox} {p : EventPayload} {e : MessageEvent} {text : String}

lemma userMessage?_of_written (he : p.event = some e) (hwritten : WrittenByPerson e text) :
    p.userMessage? = some e := by
  unfold EventPayload.userMessage?
  rw [he, Option.filter_some, (isUserMessage_iff e).mpr ⟨text, hwritten⟩]
  rfl

lemma exists_written_of_userMessage? (h : p.userMessage? = some e) :
    p.event = some e ∧ ∃ text, WrittenByPerson e text := by
  obtain ⟨he, hwritten⟩ := Option.filter_eq_some_iff.mp h
  exact ⟨he, (isUserMessage_iff e).mp hwritten⟩

lemma payloadResult_of_none (hc : p.challenge = none) :
    payloadResult i (some p) = (i.readEvent p).result := by
  unfold payloadResult Inbox.readEventPayload
  simp only [hc]

lemma readEvent_of_unheard (h : p.userMessage? = some e) (hunheard : ¬IsHeard i.channel e) :
    (i.readEvent p).result = .ok (.ignored .unsupportedChannel) := by
  have hfalse : e.isHeard i.channel = false := by
    rw [← Bool.not_eq_true, isHeard_iff]
    exact hunheard
  unfold Inbox.readEvent
  simp only [h, hfalse, Bool.not_false, if_true]

lemma readEvent_of_heard (h : p.userMessage? = some e) (hheard : IsHeard i.channel e) :
    (i.readEvent p).result = match present? e.user with
      | none => .ok (.ignored .botMessage)
      | some user => .ok (.message (i.message user (sanitize p.botUsers (e.text.getD ""))
          p.metadata)) := by
  unfold Inbox.readEvent
  simp only [h, (isHeard_iff _ _).mpr hheard, Bool.not_true, Bool.false_eq_true, if_false]
  cases present? e.user <;> rfl

lemma metadata_of_event (he : p.event = some e) :
    p.metadata = ⟨e.channel, e.threadTs.or e.ts, p.botUsers⟩ := by
  unfold EventPayload.metadata MessageEvent.threadId
  rw [he, Option.bind_some, Option.bind_some, Option.orElse_eq_orElse, Option.orElse_eq_or]

lemma payloadResult_of_means {payload : Option EventPayload}
    {result : Except Unprocessable Delivery} (h : Means i payload result) :
    payloadResult i payload = result := by
  cases h with
  | malformed => rfl
  | challenge hc =>
    unfold payloadResult Inbox.readEventPayload
    simp only [hc]
    rfl
  | message hc he hwritten hheard huser hne husers =>
    rw [payloadResult_of_none hc, readEvent_of_heard (userMessage?_of_written he hwritten) hheard,
      huser, present?_of_ne hne, hwritten.holds, metadata_of_event he, husers.eq_botUsers]
    rfl
  | @unheard _ _ _ reason hc he hwritten hunheard hreason =>
    rw [payloadResult_of_none hc, readEvent_of_unheard (userMessage?_of_written he hwritten)
      hunheard]
    cases reason with
    | unsupportedChannel => rfl
    | _ => exact absurd hreason (by decide)
  | @other p reason hc hother hreason =>
    have hresult : (i.readEvent p).result = .ok (.ignored .botMessage) := by
      cases hmessage : p.userMessage? with
      | none =>
        unfold Inbox.readEvent
        rw [hmessage]
        rfl
      | some e =>
        obtain ⟨he, text, hwritten⟩ := exists_written_of_userMessage? hmessage
        obtain ⟨hheard, huser⟩ := hother e text he hwritten
        rw [readEvent_of_heard hmessage hheard, (present?_eq_none_iff _).mpr huser]
    rw [payloadResult_of_none hc, hresult]
    cases reason with
    | botMessage => rfl
    | _ => exact absurd hreason (by decide)

/-- Every payload falls under a line of the table. -/
lemma exists_means (i : Inbox) (payload : Option EventPayload) :
    ∃ result, Means i payload result := by
  cases payload with
  | none => exact ⟨_, .malformed⟩
  | some p =>
  cases hc : p.challenge with
  | some text => exact ⟨_, .challenge hc⟩
  | none =>
  by_cases hwritten : ∃ e text, p.event = some e ∧ WrittenByPerson e text
  · obtain ⟨e, text, he, hwritten⟩ := hwritten
    by_cases hheard : IsHeard i.channel e
    · by_cases huser : ∃ user, e.user = some user ∧ user ≠ ""
      · obtain ⟨user, huser, hne⟩ := huser
        exact ⟨_, .message hc he hwritten hheard huser hne (addressedAs_botUsers p)⟩
      · refine ⟨.ok (.ignored .botMessage), .other hc ?_ rfl⟩
        intro other _ hother _
        cases he.symm.trans hother
        exact ⟨hheard, fun user h => by_contra fun hne => huser ⟨user, h, hne⟩⟩
    · exact ⟨.ok (.ignored .unsupportedChannel), .unheard hc he hwritten hheard rfl⟩
  · refine ⟨.ok (.ignored .botMessage), .other hc ?_ rfl⟩
    intro e text he hw
    exact absurd ⟨e, text, he, hw⟩ hwritten

theorem payloadResult_eq_iff (payload : Option EventPayload)
    (result : Except Unprocessable Delivery) :
    payloadResult i payload = result ↔ Means i payload result := by
  refine ⟨fun h => ?_, payloadResult_of_means⟩
  obtain ⟨other, hother⟩ := exists_means i payload
  rw [payloadResult_of_means hother] at h
  exact h ▸ hother

end Lines

/-! ### Bodies of JSON -/

/-- The type that a content is declared to have: what comes before the first semicolon, trimmed and
in lower case. -/
inductive HasType (contentType type : String) : Prop
  | mk {before after : String} (hparts : contentType = before ++ after)
      (hbefore : ';' ∉ before.toList) (hafter : after = "" ∨ ∃ params, after = ";" ++ params)
      (htype : Text.lowerAscii (Text.trim before) = type)

lemma HasType.essence_eq {contentType type : String} (h : HasType contentType type) :
    essence contentType = type := by
  obtain ⟨rfl, hbefore, hafter, rfl⟩ := h
  rename_i before after
  have hall : ∀ c ∈ before.toList, (c != ';') = true := bne_of_notMem hbefore
  have hrest : after.toList.takeWhile (· != ';') = [] := by
    rcases hafter with rfl | ⟨params, rfl⟩
    · rfl
    · rw [String.toList_append]
      rfl
  unfold essence
  rw [String.toList_append, List.takeWhile_append_of_pos hall, hrest, List.append_nil,
    String.ofList_toList]

/-- Each content has the type that is read of it. -/
lemma hasType_of_essence_eq {contentType type : String} (h : essence contentType = type) :
    HasType contentType type := by
  have hchars := List.takeWhile_append_dropWhile (p := (· != ';')) (l := contentType.toList)
  have hparts : contentType = String.ofList (contentType.toList.takeWhile (· != ';')) ++
      String.ofList (contentType.toList.dropWhile (· != ';')) := by
    rw [← String.ofList_append, hchars, String.ofList_toList]
  refine .mk hparts ?_ ?_ h
  · rw [String.toList_ofList]
    intro hmem
    have hpassed : (';' != ';') = true := List.mem_takeWhile_imp (p := (· != ';')) hmem
    exact absurd rfl (bne_iff_ne.mp hpassed)
  · have hstop := List.head?_dropWhile_not (· != ';') contentType.toList
    cases hrest : contentType.toList.dropWhile (· != ';') with
    | nil => exact .inl rfl
    | cons c rest =>
      rw [hrest] at hstop
      have hc : c = ';' := by simpa using hstop
      refine .inr ⟨String.ofList rest, ?_⟩
      rw [hc, ← List.singleton_append, String.ofList_append]

lemma HasType.classify_json {contentType : String} (h : HasType contentType "application/json")
    (i : Inbox) (body : Bytes) : i.classify (some contentType) body =
      match EventPayload.read? body with
      | none => .error .malformedJson
      | some p => i.readEventPayload p := by
  unfold Inbox.classify
  rw [Option.map_some, Option.getD_some, h.essence_eq]
  rfl

lemma HasType.classify_form {contentType : String}
    (h : HasType contentType "application/x-www-form-urlencoded") (i : Inbox) (body : Bytes) :
    i.classify (some contentType) body = i.readForm body := by
  unfold Inbox.classify
  rw [Option.map_some, Option.getD_some, h.essence_eq]
  rfl

/-- The meaning of a JSON body is the line of the table that it falls under. -/
theorem classify_json_iff {contentType : String} (htype : HasType contentType "application/json")
    (i : Inbox) (body : Bytes) (result : Except Unprocessable Delivery) :
    (i.classify (some contentType) body).result = result ↔
      Means i (EventPayload.read? body) result := by
  rw [← payloadResult_eq_iff]
  unfold Inbox.classify
  rw [Option.map_some, Option.getD_some, htype.essence_eq]
  cases EventPayload.read? body with
  | none => rfl
  | some p => rfl

/-- An inbox that listens to one channel, with conversations divided by thread. -/
def channelInbox : Inbox :=
  ⟨some "C1", false, .thread, ⟨⟨"k"⟩, 300⟩, ⟨"r", "n", []⟩⟩

/-- A reply in a thread of another channel that mentions the bot. -/
def mentionEvent : MessageEvent where
  kind := "app_mention"
  subtype := none
  user := some "U1"
  text := some "<@B1> hi"
  channel := some "C2"
  channelType := none
  ts := some "2.5"
  threadTs := some "1.5"
  botId := none

def mentionBody : Bytes :=
  Text.utf8 <| "\x7b\"event\":\x7b\"type\":\"app_mention\",\"user\":\"U1\"," ++
    "\"text\":\"<@B1> hi\",\"channel\":\"C2\",\"ts\":\"2.5\",\"thread_ts\":\"1.5\"\x7d," ++
    "\"authorizations\":[\x7b\"user_id\":\"B1\"\x7d]\x7d"

lemma read?_mentionBody : EventPayload.read? mentionBody =
    some ⟨none, none, none, some mentionEvent, none, [some "B1"]⟩ := by
  decide +kernel

lemma hasType_padded : HasType " Application/JSON ; charset=utf-8" "application/json" := by
  have hparts : " Application/JSON ; charset=utf-8" =
      " Application/JSON " ++ "; charset=utf-8" := by decide
  exact .mk hparts (by decide) (.inr ⟨" charset=utf-8", rfl⟩) (by decide +kernel)

theorem classify_json_iff_of_mention :
    HasType " Application/JSON ; charset=utf-8" "application/json" ∧
    (channelInbox.classify (some " Application/JSON ; charset=utf-8") mentionBody).result =
      .ok (.message {
        text := sanitize ["B1"] "<@B1> hi"
        sender := "U1_C2_1.5"
        inputChannel := "slack"
        metadata := ⟨some "C2", some "1.5", ["B1"]⟩ }) := by
  refine ⟨hasType_padded, (classify_json_iff hasType_padded channelInbox mentionBody _).mpr ?_⟩
  rw [read?_mentionBody]
  exact .message (e := mentionEvent) rfl rfl ⟨.inr rfl, rfl, by decide, rfl, .inl rfl⟩
    (.inr (.inl rfl)) rfl (by decide) (.authorized rfl rfl)

end SlackBridge.Proofs
