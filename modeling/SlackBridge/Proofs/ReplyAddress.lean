import SlackBridge.Dialogue.Bot
import SlackBridge.Proofs.Recording

/-!
# Where replies go

Every post that a reply makes is addressed by the message that it answers: its channel, its thread
and its author are fixed by where the message came from, whatever the bot wrote. Only a custom
payload may bring address fields of its own.
-/

namespace SlackBridge.Proofs

open Json Dialogue Slack

/-! ### Fields of posts -/

lemma get?_append (key : String) (ms more : Members) :
    Members.get? key (ms ++ more) = (Members.get? key ms).or (Members.get? key more) := by
  unfold Members.get?
  exact List.lookup_append

lemma get?_putIfAbsent_self (key : String) (v : Value) (ms : Members) :
    Members.get? key (Members.putIfAbsent key v ms) = (Members.get? key ms).or (some v) := by
  unfold Members.putIfAbsent
  cases h : Members.get? key ms with
  | some w => simp only [Option.isSome_some, if_true, h, Option.some_or]
  | none =>
    simp only [Option.isSome_none, Bool.false_eq_true, if_false, get?_append, h, Option.none_or]
    simp only [Members.get?, List.lookup_cons_self]

lemma get?_putIfAbsent_of_ne {key other : String} (hne : other ≠ key) (v : Value) (ms : Members) :
    Members.get? other (Members.putIfAbsent key v ms) = Members.get? other ms := by
  unfold Members.putIfAbsent
  split
  · rfl
  · have hnone : Members.get? other [(key, v)] = none := by
      simp only [Members.get?, List.lookup_cons, beq_eq_false_iff_ne.mpr hne, List.lookup_nil]
    rw [get?_append, hnone, Option.or_none]

/-! ### The address of a post -/

/-- The address of a post: its channel, its thread and its author are the given ones, save those
that are among its own fields. -/
structure Addressed (channel : String) (thread : Option String) (own : Members) (p : Post) :
    Prop where
  channel : p.get? "channel" = (Members.get? "channel" own).or (some (.string channel))
  thread : p.get? "thread_ts" = (Members.get? "thread_ts" own).or (thread.map .string)
  asUser : p.get? "as_user" = (Members.get? "as_user" own).or (some (.bool true))

/-- The fields that make up an address. -/
def addressKeys : List String :=
  ["channel", "thread_ts", "as_user"]

/-- The fields that a part brings along: those of a custom payload. -/
def ownFields : Part → Members
  | .custom (.object payload) => payload
  | _ => []

lemma addressed_post (d : Destination) (recipient : String) :
    Addressed (d.channelFor recipient) d.thread [] (d.post recipient) := by
  unfold Destination.post Post.inThread
  cases d.thread with
  | none => exact ⟨rfl, rfl, rfl⟩
  | some t => exact ⟨rfl, rfl, rfl⟩

/-- A field under another key leaves the address alone. -/
lemma Addressed.withField {channel : String} {thread : Option String} {own : Members} {p : Post}
    (h : Addressed channel thread own p) {key : String} (hother : key ∉ addressKeys) (v : Value) :
    Addressed channel thread own (p.withField key v) := by
  have hkeep : ∀ k ∈ addressKeys, (p.withField key v).get? k = p.get? k := by
    intro k hk
    refine Members.get?_put_of_ne ?_ v p.fields
    rintro rfl
    exact hother hk
  refine ⟨?_, ?_, ?_⟩
  · rw [hkeep "channel" (by decide), h.channel]
  · rw [hkeep "thread_ts" (by decide), h.thread]
  · rw [hkeep "as_user" (by decide), h.asUser]

lemma text_notMem_addressKeys : "text" ∉ addressKeys := by
  decide

lemma addressed_templatePost (d : Destination) (recipient : String) (t : Template) :
    Addressed (d.channelFor recipient) d.thread [] (d.templatePost recipient t) := by
  have htext := (addressed_post d recipient).withField text_notMem_addressKeys (.string t.fallback)
  exact htext.withField (by decide) t.blockValues

lemma addressed_textPost (d : Destination) (recipient piece : String) :
    Addressed (d.channelFor recipient) d.thread [] (d.textPost recipient piece) := by
  have htext := (addressed_post d recipient).withField text_notMem_addressKeys (.string piece)
  exact htext.withField (by decide) (.string "mrkdwn")

lemma addressed_of_mem_textPosts {d : Destination} {recipient text : String} {p : Post}
    (hp : p ∈ d.textPosts recipient text) :
    Addressed (d.channelFor recipient) d.thread [] p := by
  obtain ⟨piece, -, rfl⟩ := List.mem_map.mp hp
  exact addressed_textPost d recipient piece

lemma addressed_customPost (d : Destination) (recipient : String) (payload : Members) :
    Addressed (d.channelFor recipient) d.thread payload (d.customPost recipient payload) := by
  have hthread : ∀ key ≠ "thread_ts", (d.customPost recipient payload).get? key =
      Members.get? key (Members.putIfAbsent "as_user" (.bool true)
        (Members.putIfAbsent "channel" (.string (d.channelFor recipient)) payload)) := by
    intro key hne
    unfold Destination.customPost Post.get?
    cases d.thread with
    | none => rfl
    | some t => exact get?_putIfAbsent_of_ne hne _ _
  refine ⟨?_, ?_, ?_⟩
  · rw [hthread _ (by decide), get?_putIfAbsent_of_ne (by decide), get?_putIfAbsent_self]
  · unfold Destination.customPost Post.get?
    cases d.thread with
    | none =>
      dsimp only
      rw [get?_putIfAbsent_of_ne (by decide), get?_putIfAbsent_of_ne (by decide), Option.map_none,
        Option.or_none]
    | some t =>
      dsimp only
      rw [get?_putIfAbsent_self, get?_putIfAbsent_of_ne (by decide),
        get?_putIfAbsent_of_ne (by decide), Option.map_some]
  · rw [hthread _ (by decide), get?_putIfAbsent_self, get?_putIfAbsent_of_ne (by decide)]

/-- Every post of a part goes where the destination and its recipient say. -/
lemma addressed_of_mem_posts {d : Destination} {recipient : String} {part : Part}
    {posts : List Post} (hposts : d.posts recipient part = .ok posts) {p : Post} (hp : p ∈ posts) :
    Addressed (d.channelFor recipient) d.thread (ownFields part) p := by
  unfold Destination.posts at hposts
  split at hposts
  case h_1 text =>
    cases hposts
    exact addressed_of_mem_textPosts hp
  case h_2 url =>
    cases hposts
    rw [List.mem_singleton.mp hp]
    exact addressed_templatePost d recipient _
  case h_3 v =>
    cases hposts
    rw [List.mem_singleton.mp hp]
    exact (addressed_post d recipient).withField (by decide) _
  case h_4 text choices =>
    split at hposts
    · cases hposts
      exact addressed_of_mem_textPosts hp
    · cases hposts
      rw [List.mem_singleton.mp hp]
      exact addressed_templatePost d recipient _
  case h_5 payload =>
    cases hposts
    rw [List.mem_singleton.mp hp]
    exact addressed_customPost d recipient payload
  case h_6 => cases hposts

/-! ### Posts on record -/

section Record

variable {σ : Type} (d : Destination) (post : σ → Post → Called σ Posted)

lemma unrecorded_sendPost (s : σ × List Post) (p : Post) :
    unrecorded (d.sendPost (recordingPost post) s p) = d.sendPost post s.1 p := by
  simp only [Destination.sendPost, recordingPost]
  cases (post s.1 p).result <;> rfl

lemma unrecorded_send (s : σ × List Post) (sending : Sending) :
    unrecorded (d.send (recordingPost post) s sending) = d.send post s.1 sending := by
  unfold Destination.send
  cases d.posts sending.recipient sending.part with
  | error e => rfl
  | ok posts =>
    have hrun := unrecorded_runAll (unrecorded_sendPost d post) posts s
    simp only [unrecorded, Outcome.after] at hrun ⊢
    rw [← hrun]

variable {Q : Post → Prop}

lemma record_sendPost {s : σ × List Post} (h : ∀ q ∈ s.2, Q q) {p : Post} (hp : Q p) :
    ∀ q ∈ (d.sendPost (recordingPost post) s p).state.2, Q q := by
  intro q hq
  rw [recorded_sendPost, List.mem_append, List.mem_singleton] at hq
  rcases hq with hold | rfl
  · exact h q hold
  · exact hp

lemma record_send {s : σ × List Post} (h : ∀ q ∈ s.2, Q q) {sending : Sending}
    (hposts : ∀ posts, d.posts sending.recipient sending.part = .ok posts → ∀ q ∈ posts, Q q) :
    ∀ q ∈ (d.send (recordingPost post) s sending).state.2, Q q := by
  unfold Destination.send
  cases hp : d.posts sending.recipient sending.part with
  | error e => exact h
  | ok posts =>
    exact runAll_preserves (fun s : σ × List Post => ∀ q ∈ s.2, Q q) posts
      (fun s p hmem hs => record_sendPost d post hs (hposts posts hp p hmem)) h

lemma unrecorded_deliver (s : σ × List Post) (sender : String) (replies : List Reply) :
    unrecorded (deliver (d.send (recordingPost post)) sender replies s) =
      deliver (d.send post) sender replies s.1 :=
  unrecorded_runAll (unrecorded_send d post) _ s

lemma unrecorded_handle (b : Bot) (wire : Http.Wire σ) (s : σ × List Post) (m : Message) :
    unrecorded (b.handle (besideRecord wire) (d.send (recordingPost post)) s m) =
      b.handle wire (d.send post) s.1 m := by
  cases b with
  | echo => exact unrecorded_deliver d post s m.sender [.ofText m.text]
  | endpoint url timeoutSecs =>
    simp only [Bot.handle, send_besideRecord]
    obtain ⟨answer, s'⟩ := Http.send wire s.1 (Bot.question url timeoutSecs m)
    dsimp only
    cases Bot.replies answer with
    | error e => rfl
    | ok replies =>
      have hdeliver := unrecorded_deliver d post (s', s.2) m.sender replies
      simp only [unrecorded, Outcome.after] at hdeliver ⊢
      rw [← hdeliver]

lemma mem_plan {sender : String} {replies : List Reply} {sending : Sending}
    (h : sending ∈ plan sender replies) :
    ∃ r ∈ replies, sending.recipient = r.recipient.getD sender ∧ sending.part ∈ r.parts := by
  obtain ⟨r, hr, hsending⟩ := List.mem_flatMap.mp h
  obtain ⟨part, hpart, rfl⟩ := List.mem_map.mp hsending
  exact ⟨r, (List.mem_filter.mp hr).1, rfl, hpart⟩

lemma record_deliver {s : σ × List Post} (h : ∀ q ∈ s.2, Q q) {sender : String}
    {replies : List Reply}
    (hposts : ∀ r ∈ replies, ∀ part ∈ r.parts, ∀ posts,
      d.posts (r.recipient.getD sender) part = .ok posts → ∀ q ∈ posts, Q q) :
    ∀ q ∈ (deliver (d.send (recordingPost post)) sender replies s).state.2, Q q := by
  unfold deliver
  refine runAll_preserves (fun s : σ × List Post => ∀ q ∈ s.2, Q q) _ ?_ h
  intro s sending hsending hs
  obtain ⟨r, hr, hrecipient, hpart⟩ := mem_plan hsending
  exact record_send d post hs fun posts hp => hposts r hr _ hpart posts (hrecipient ▸ hp)

lemma record_handle {b : Bot} {wire : Http.Wire σ} {s : σ × List Post} (h : ∀ q ∈ s.2, Q q)
    {m : Message}
    (hposts : ∀ r : Reply, (b = .echo → r = .ofText m.text) → ∀ part ∈ r.parts, ∀ posts,
      d.posts (r.recipient.getD m.sender) part = .ok posts → ∀ q ∈ posts, Q q) :
    ∀ q ∈ (b.handle (besideRecord wire) (d.send (recordingPost post)) s m).state.2, Q q := by
  cases b with
  | echo =>
    refine record_deliver d post h fun r hr => hposts r fun _ => ?_
    exact List.mem_singleton.mp hr
  | endpoint url timeoutSecs =>
    simp only [Bot.handle, send_besideRecord]
    obtain ⟨answer, s'⟩ := Http.send wire s.1 (Bot.question url timeoutSecs m)
    dsimp only
    cases Bot.replies answer with
    | error e => exact h
    | ok replies =>
      have hstart : ∀ q ∈ (s', s.2).2, Q q := h
      exact record_deliver d post hstart fun r _ => hposts r fun hecho => nomatch hecho

end Record

/-! ### The address of a message -/

/-- The channel for a reply to a message: the one the message came from, else the configured one,
else the recipient that the reply names, else the sender. -/
def replyChannel (i : Inbox) (m : Message) (recipient : Option String) : String :=
  match m.metadata.outChannel, i.channel, recipient with
  | some c, _, _ => c
  | none, some c, _ => c
  | none, none, some c => c
  | none, none, none => m.sender

/-- The thread for replies to a message: its own, where threads are in use. -/
def replyThread (i : Inbox) (m : Message) : Option String :=
  if i.useThreads then m.metadata.threadId else none

lemma channelFor_destinationFor (i : Inbox) (m : Message) (recipient : Option String) :
    (i.destinationFor m.metadata).channelFor (recipient.getD m.sender) =
      replyChannel i m recipient := by
  unfold Destination.channelFor Inbox.destinationFor Inbox.destination replyChannel
  cases m.metadata.outChannel with
  | some c => rfl
  | none =>
    cases i.channel with
    | some c => rfl
    | none => cases recipient <;> rfl

/-- A post that a part of a reply to a message makes, at the address that the message gives. -/
def AnswersAt (i : Inbox) (m : Message) (r : Reply) (p : Post) : Prop :=
  ∃ part ∈ r.parts,
    (∃ posts, (i.destinationFor m.metadata).posts (r.recipient.getD m.sender) part = .ok posts ∧
      p ∈ posts) ∧
    Addressed (replyChannel i m r.recipient) (replyThread i m) (ownFields part) p

lemma answersAt_of_mem_posts {i : Inbox} {m : Message} {r : Reply} {part : Part}
    (hpart : part ∈ r.parts) {posts : List Post}
    (hposts : (i.destinationFor m.metadata).posts (r.recipient.getD m.sender) part = .ok posts)
    {p : Post} (hp : p ∈ posts) : AnswersAt i m r p := by
  have haddress := addressed_of_mem_posts hposts hp
  rw [channelFor_destinationFor] at haddress
  exact ⟨part, hpart, ⟨posts, hposts, hp⟩, haddress⟩

/-- A body of the given type in which a user writes or picks something, with what it says about
where that happened. -/
inductive WrittenBy (contentType : Option String) (body : Bytes) (user : String) :
    Metadata → Prop
  | event {p : EventPayload} {e : MessageEvent}
      (hkind : contentType.map essence = some "application/json")
      (hread : EventPayload.read? body = some p) (hevent : p.event = some e)
      (huser : e.user = some user) : WrittenBy contentType body user p.metadata
  | interaction {payload : String} {p : InteractionPayload}
      (hkind : contentType.map essence = some "application/x-www-form-urlencoded")
      (hform : Form.value? "payload" body = some payload)
      (hread : InteractionPayload.read? (Text.utf8 payload) = some p)
      (huser : p.user = some (some user)) : WrittenBy contentType body user p.metadata

lemma conversationKey_of_none (g : Granularity) (user : String) (thread : Option String) :
    conversationKey g user none thread = user := by
  cases g <;> rfl

lemma present?_eq_some {s : Option String} {text : String} (h : present? s = some text) :
    s = some text :=
  (Option.filter_eq_some_iff.mp h).1

lemma writtenBy_of_readEventPayload {i : Inbox} {contentType : Option String} {body : Bytes}
    {p : EventPayload} (hkind : contentType.map essence = some "application/json")
    (hread : EventPayload.read? body = some p) {m : Message}
    (hm : (i.readEventPayload p).result = .ok (.message m)) :
    ∃ user, WrittenBy contentType body user m.metadata ∧ m = i.message user m.text m.metadata := by
  unfold Inbox.readEventPayload Inbox.readEvent at hm
  split at hm
  · cases hm
  split at hm
  · cases hm
  next e hevent =>
    split at hm
    · cases hm
    split at hm
    · cases hm
    next user huser =>
      cases hm
      exact ⟨user, .event hkind hread (Option.filter_eq_some_iff.mp hevent).1
        (present?_eq_some huser), rfl⟩

lemma writtenBy_of_readForm {i : Inbox} {contentType : Option String} {body : Bytes}
    (hkind : contentType.map essence = some "application/x-www-form-urlencoded") {m : Message}
    (hm : (i.readForm body).result = .ok (.message m)) :
    ∃ user, WrittenBy contentType body user m.metadata ∧ m = i.message user m.text m.metadata := by
  unfold Inbox.readForm at hm
  split at hm
  · cases hm
  next payload hform =>
    split at hm
    · cases hm
    next p hread =>
      unfold Inbox.readInteraction at hm
      split at hm
      · cases hm
      next kind action haction =>
        split at hm
        · split at hm <;> cases hm
        · cases hm
        next text user htext hsender =>
          cases hm
          have huser := Option.join_eq_some_iff.mp (present?_eq_some hsender)
          exact ⟨user, .interaction hkind hform hread huser, rfl⟩

/-- A message is what the user wrote or picked, under the key of a conversation of that user. -/
lemma writtenBy_of_message {i : Inbox} {contentType : Option String} {body : Bytes} {m : Message}
    (hm : (i.classify contentType body).result = .ok (.message m)) :
    ∃ user, WrittenBy contentType body user m.metadata ∧ m = i.message user m.text m.metadata := by
  unfold Inbox.classify at hm
  cases hkind : contentType.map essence with
  | none =>
    rw [hkind] at hm
    cases hm
  | some kind =>
    rw [hkind, Option.getD_some] at hm
    split at hm
    · split at hm
      · cases hm
      next p hread => exact writtenBy_of_readEventPayload hkind hread hm
    · exact writtenBy_of_readForm hkind hm
    · cases hm

/-- A reply to a message that an inbox reads goes where the message says: to its channel, else to
the configured one, else to whom the reply names or to the sender; in its thread where threads are
in use; and as the bot's user. Only a custom payload may say otherwise, in fields of its own. A
message without a channel has its user for a sender, however conversations are divided. -/
theorem replies_stay_at_address {i : Inbox} {contentType : Option String} {body : Bytes}
    {m : Message} (hm : (i.classify contentType body).result = .ok (.message m)) :
    (∃ user, WrittenBy contentType body user m.metadata ∧
      (m.metadata.outChannel = none → m.sender = user)) ∧
    ∀ {σ : Type} (post : σ → Post → Called σ Posted) (s : σ),
      let send := (i.destinationFor m.metadata).send post
      let recorded := (i.destinationFor m.metadata).send (recordingPost post)
      (∀ replies,
        unrecorded (deliver recorded m.sender replies (s, [])) = deliver send m.sender replies s ∧
        ∀ p ∈ (deliver recorded m.sender replies (s, [])).state.2,
          ∃ r ∈ replies, AnswersAt i m r p) ∧
      ∀ (b : Bot) (wire : Http.Wire σ),
        unrecorded (b.handle (besideRecord wire) recorded (s, []) m) = b.handle wire send s m ∧
        ∀ p ∈ (b.handle (besideRecord wire) recorded (s, []) m).state.2,
          ∃ r, (b = .echo → r = .ofText m.text) ∧ AnswersAt i m r p := by
  constructor
  · obtain ⟨user, hwritten, heq⟩ := writtenBy_of_message hm
    refine ⟨user, hwritten, fun hnone => ?_⟩
    rw [heq, Inbox.message, hnone, conversationKey_of_none]
  · intro σ post s
    have hempty : ∀ {Q : Post → Prop}, ∀ q ∈ (s, ([] : List Post)).2, Q q := by
      intro Q q hq
      cases hq
    refine ⟨fun replies => ⟨unrecorded_deliver _ post (s, []) m.sender replies, ?_⟩,
      fun b wire => ⟨unrecorded_handle _ post b wire (s, []) m, ?_⟩⟩
    · refine record_deliver _ post hempty ?_
      intro r hr part hpart posts hposts q hq
      exact ⟨r, hr, answersAt_of_mem_posts hpart hposts hq⟩
    · refine record_handle _ post hempty ?_
      intro r hecho part hpart posts hposts q hq
      exact ⟨r, hecho, answersAt_of_mem_posts hpart hposts hq⟩

/-- An inbox without a channel of its own, with threads in use. -/
def threadedInbox : Inbox :=
  ⟨none, true, .thread, ⟨⟨"k"⟩, 300⟩, ⟨"r", "n", []⟩⟩

def directMessage : Message :=
  ⟨"hi", "U1", "slack", ⟨none, some "1.5", []⟩⟩

def directMessageBody : Bytes :=
  Text.utf8 <| "\x7b\"event\":\x7b\"type\":\"message\",\"user\":\"U1\",\"text\":\"hi\"," ++
    "\"channel_type\":\"im\",\"ts\":\"1.5\"\x7d\x7d"

/-- A text of two paragraphs, and a payload for a channel of its own. -/
def twoReplies : List Reply :=
  [.ofText "a\n\nb",
    { Reply.empty with
      recipient := some "C9"
      custom := some (.object [("channel", .string "C7")]) }]

def acceptPost (s : Unit) (p : Post) : Called Unit Posted :=
  ⟨s, [], .ok ⟨p.channel?.getD "", none⟩⟩

lemma classify_directMessageBody :
    (threadedInbox.classify (some "application/json") directMessageBody).result =
      .ok (.message directMessage) := by
  have h : (threadedInbox.classify (some "application/json") directMessageBody).result.toOption =
      some (.message directMessage) := by
    decide +kernel
  revert h
  cases (threadedInbox.classify (some "application/json") directMessageBody).result with
  | error e => intro h; cases h
  | ok delivery => intro h; rw [Option.some.inj h]

theorem replies_stay_at_address_of_directMessage :
    (threadedInbox.classify (some "application/json") directMessageBody).result =
      .ok (.message directMessage) ∧
    (deliver ((threadedInbox.destinationFor directMessage.metadata).send
      (recordingPost acceptPost)) "U1" twoReplies ((), [])).state.2.length = 3 ∧
    ∀ p ∈ (deliver ((threadedInbox.destinationFor directMessage.metadata).send
        (recordingPost acceptPost)) "U1" twoReplies ((), [])).state.2,
      ∃ r ∈ twoReplies, AnswersAt threadedInbox directMessage r p :=
  ⟨classify_directMessageBody, by decide +kernel,
    (((replies_stay_at_address classify_directMessageBody).2 acceptPost ()).1 twoReplies).2⟩

end SlackBridge.Proofs
