import SlackBridge.Proofs.EventTable
import SlackBridge.Proofs.ReplyAddress

/-!
# Conversations that go on

A user writes in a thread, the bot replies there, and the user presses something in the reply. What
was written and what was pressed reach the inbox in payloads of two shapes. They come to one
conversation of the bot, and its answers to both go to the same place.
-/

namespace SlackBridge.Proofs

open Json Dialogue Slack

/-- A body of JSON with an event in which a user writes in a channel and a thread. -/
inductive WritesIn (type : String) (body : Bytes) (user channel thread : String) : Prop
  | mk {p : EventPayload} {e : MessageEvent} (htype : HasType type "application/json")
      (hread : EventPayload.read? body = some p) (hevent : p.event = some e)
      (huser : e.user = some user) (hchannel : e.channel = some channel)
      (hthread : e.threadTs.or e.ts = some thread) : WritesIn type body user channel thread

/-- A form in which a user presses something in a channel, in a message that carries the given
thread. The time of that message is not looked at. -/
inductive PressesIn (type : String) (body : Bytes) (user channel : String)
    (carried : Option String) : Prop
  | mk {document : String} {p : InteractionPayload}
      (htype : HasType type "application/x-www-form-urlencoded")
      (hform : Form.value? "payload" body = some document)
      (hread : InteractionPayload.read? (Text.utf8 document) = some p)
      (huser : p.user = some (some user)) (hchannel : p.channel = some (some channel))
      (hcarried : (p.message.bind fun shown => shown.threadTs) = carried) :
      PressesIn type body user channel carried

/-- The posts that reply to a message carry the given thread, or none of them carries any. A custom
payload may bring a thread of its own. -/
def RepliesCarry (i : Inbox) (m : Message) (thread : Option String) : Prop :=
  ∀ recipient part posts, (i.destinationFor m.metadata).posts recipient part = .ok posts →
    ownFields part = [] → ∀ p ∈ posts, p.get? "thread_ts" = thread.map .string

/-- The key of a user in a channel and a thread. -/
def keyIn (g : Granularity) (user channel thread : String) : String :=
  match g with
  | .sender => user
  | .channel => user ++ "_" ++ channel
  | .thread => user ++ "_" ++ channel ++ "_" ++ thread

section Keys

variable {user channel : String}

lemma conversationKey_thread {thread : String} (hchannel : channel ≠ "") (hthread : thread ≠ "")
    (g : Granularity) :
    conversationKey g user (some channel) (some thread) = keyIn g user channel thread := by
  unfold conversationKey
  rw [present?_of_ne hchannel, present?_of_ne hthread]
  cases g <;> rfl

/-- Where conversations are not divided by thread, any thread gives the same key. -/
lemma conversationKey_any {g : Granularity} (hg : g ≠ .thread) (hchannel : channel ≠ "")
    (thread : String) (other : Option String) :
    conversationKey g user (some channel) other = keyIn g user channel thread := by
  unfold conversationKey
  rw [present?_of_ne hchannel]
  cases g with
  | sender => rfl
  | channel => rfl
  | thread => exact absurd rfl hg

end Keys

section Messages

variable {i : Inbox} {type : String} {body : Bytes} {m : Message} {user channel : String}

lemma thread_destinationFor (i : Inbox) (m : Message) :
    (i.destinationFor m.metadata).thread = replyThread i m :=
  rfl

/-- The replies to a message carry the thread that they are addressed to. -/
lemma repliesCarry_iff (i : Inbox) (m : Message) (thread : Option String) :
    RepliesCarry i m thread ↔ thread = replyThread i m := by
  constructor
  · intro h
    -- any part without fields of its own will do
    have hposts : (i.destinationFor m.metadata).posts "" (.attachment .null) = .ok _ := rfl
    have hthread := h "" (.attachment .null) _ hposts rfl _ (List.mem_singleton_self _)
    have haddress := addressed_of_mem_posts hposts (List.mem_singleton_self _)
    have hsame := hthread.symm.trans haddress.thread
    rw [thread_destinationFor] at hsame
    apply Option.map_injective (f := Value.string) fun s t hst => Value.string.inj hst
    exact hsame
  · rintro rfl recipient part posts hposts hown p hp
    have haddress := addressed_of_mem_posts hposts hp
    rw [hown] at haddress
    exact haddress.thread

lemma message_of_writesIn {thread : String}
    (hm : (i.classify (some type) body).result = .ok (.message m))
    (h : WritesIn type body user channel thread) :
    m.sender = conversationKey i.granularity user (some channel) (some thread) ∧
      m.metadata.outChannel = some channel ∧ m.metadata.threadId = some thread := by
  obtain ⟨htype, hread, hevent, huser, hchannel, hthread⟩ := h
  obtain ⟨author, hwritten, heq⟩ := writtenBy_of_message hm
  generalize m.metadata = metadata at hwritten heq ⊢
  cases hwritten with
  | event hkind hread' hevent' huser' =>
    cases Option.some.inj (hread.symm.trans hread')
    cases Option.some.inj (hevent.symm.trans hevent')
    cases Option.some.inj (huser.symm.trans huser')
    have hmetadata := metadata_of_event hevent
    rw [hchannel, hthread] at hmetadata
    rw [heq, hmetadata]
    exact ⟨rfl, rfl, rfl⟩
  | interaction hkind =>
    rw [Option.map_some, htype.essence_eq] at hkind
    exact absurd (Option.some.inj hkind) (by decide)

lemma message_of_pressesIn {carried : Option String}
    (hm : (i.classify (some type) body).result = .ok (.message m))
    (h : PressesIn type body user channel carried) :
    m.sender = conversationKey i.granularity user (some channel) m.metadata.threadId ∧
      m.metadata.outChannel = some channel ∧
      ∀ thread, carried = some thread → m.metadata.threadId = some thread := by
  obtain @⟨document, p, htype, hform, hread, huser, hchannel, hcarried⟩ := h
  obtain ⟨author, hwritten, heq⟩ := writtenBy_of_message hm
  generalize m.metadata = metadata at hwritten heq ⊢
  cases hwritten with
  | event hkind =>
    rw [Option.map_some, htype.essence_eq] at hkind
    exact absurd (Option.some.inj hkind) (by decide)
  | interaction hkind hform' hread' huser' =>
    cases Option.some.inj (hform.symm.trans hform')
    cases Option.some.inj (hread.symm.trans hread')
    cases Option.some.inj (Option.some.inj (huser.symm.trans huser'))
    have hout : p.metadata.outChannel = some channel := by
      unfold InteractionPayload.metadata
      rw [hchannel]
      rfl
    refine ⟨?_, hout, ?_⟩
    · rw [heq, ← hout]
      rfl
    · rintro thread rfl
      obtain ⟨shown, hshown, hthread⟩ := Option.bind_eq_some_iff.mp hcarried
      unfold InteractionPayload.metadata
      rw [hshown, Option.bind_some, hthread]
      rfl

end Messages

/-- What a user writes in a thread and what the same user presses in a reply to it belong to one
conversation, and the answers to both go to the channel and, where threads are in use, to the
thread. Conversations may be divided by thread only where threads are in use, since otherwise a
reply does not say which thread it belongs to. -/
theorem press_continues_conversation {i : Inbox}
    (hi : i.granularity ≠ .thread ∨ i.useThreads = true) {type type' : String}
    {body body' : Bytes} {m m' : Message} {user channel thread : String} {carried : Option String}
    (hchannel : channel ≠ "") (hthread : thread ≠ "")
    (hm : (i.classify (some type) body).result = .ok (.message m))
    (hwrites : WritesIn type body user channel thread) (hcarried : RepliesCarry i m carried)
    (hm' : (i.classify (some type') body').result = .ok (.message m'))
    (hpresses : PressesIn type' body' user channel carried) :
    m'.sender = m.sender ∧ m.sender = keyIn i.granularity user channel thread ∧
      i.destinationFor m'.metadata = i.destinationFor m.metadata ∧
      i.destinationFor m.metadata =
        ⟨some channel, if i.useThreads then some thread else none⟩ := by
  obtain ⟨hsender, hout, hid⟩ := message_of_writesIn hm hwrites
  obtain ⟨hsender', hout', hid'⟩ := message_of_pressesIn hm' hpresses
  have hreply : carried = if i.useThreads then some thread else none := by
    rw [(repliesCarry_iff i m carried).mp hcarried, replyThread, hid]
  have hsame : i.useThreads = true → m'.metadata.threadId = some thread := by
    intro huse
    apply hid'
    rw [hreply, if_pos huse]
  have hkey : m.sender = keyIn i.granularity user channel thread :=
    hsender.trans (conversationKey_thread hchannel hthread i.granularity)
  have hkey' : m'.sender = keyIn i.granularity user channel thread := by
    rw [hsender']
    rcases hi with hcoarse | huse
    · exact conversationKey_any hcoarse hchannel thread _
    · rw [hsame huse]
      exact conversationKey_thread hchannel hthread i.granularity
  have hdestination : i.destinationFor m.metadata =
      ⟨some channel, if i.useThreads then some thread else none⟩ := by
    unfold Inbox.destinationFor Inbox.destination
    rw [hout, hid]
    rfl
  have hdestination' : i.destinationFor m'.metadata =
      ⟨some channel, if i.useThreads then some thread else none⟩ := by
    unfold Inbox.destinationFor Inbox.destination
    rw [hout']
    by_cases huse : i.useThreads = true
    · rw [hsame huse]
      rfl
    · simp only [huse, Bool.false_eq_true, if_false]
      rfl
  exact ⟨hkey'.trans hkey.symm, hkey, hdestination'.trans hdestination.symm, hdestination⟩

/-- A message that starts a thread in a channel. -/
def threadStartBody : Bytes :=
  Text.utf8 <| "\x7b\"event\":\x7b\"type\":\"app_mention\",\"user\":\"U1\",\"text\":\"hi\"," ++
    "\"channel\":\"C1\",\"ts\":\"1.5\"\x7d\x7d"

def threadStart : Message :=
  ⟨"hi", "U1_C1_1.5", "slack", ⟨some "C1", some "1.5", []⟩⟩

/-- A button that is pressed in a reply in that thread. -/
def pressInThreadDocument : String :=
  "\x7b\"user\":\x7b\"id\":\"U1\"\x7d,\"channel\":\x7b\"id\":\"C1\"\x7d," ++
    "\"message\":\x7b\"ts\":\"2.5\",\"thread_ts\":\"1.5\"\x7d," ++
    "\"actions\":[\x7b\"type\":\"button\",\"value\":\"yes\"\x7d]\x7d"

def pressInThreadBody : Bytes :=
  Text.utf8 ("payload=" ++ pressInThreadDocument)

def pressInThread : Message :=
  ⟨"yes", "U1_C1_1.5", "slack", ⟨some "C1", some "1.5", ["U1"]⟩⟩

theorem press_continues_conversation_of_thread :
    (threadedInbox.classify (some "application/json") threadStartBody).result =
      .ok (.message threadStart) ∧
    (threadedInbox.classify (some "application/x-www-form-urlencoded") pressInThreadBody).result =
      .ok (.message pressInThread) ∧
    RepliesCarry threadedInbox threadStart (some "1.5") ∧
    pressInThread.sender = threadStart.sender ∧
    threadedInbox.destinationFor pressInThread.metadata =
      threadedInbox.destinationFor threadStart.metadata := by
  have hm : (threadedInbox.classify (some "application/json") threadStartBody).result =
      .ok (.message threadStart) := by
    apply eq_ok_of_toOption
    decide +kernel
  have hm' : (threadedInbox.classify (some "application/x-www-form-urlencoded")
      pressInThreadBody).result = .ok (.message pressInThread) := by
    apply eq_ok_of_toOption
    decide +kernel
  have hread : EventPayload.read? threadStartBody = some ⟨none, none, none, some {
      kind := "app_mention"
      subtype := none
      user := some "U1"
      text := some "hi"
      channel := some "C1"
      channelType := none
      ts := some "1.5"
      threadTs := none
      botId := none }, none, []⟩ := by
    decide +kernel
  have hform : Form.value? "payload" pressInThreadBody = some pressInThreadDocument := by
    decide +kernel
  have hread' : InteractionPayload.read? (Text.utf8 pressInThreadDocument) = some ⟨none,
      some (some "U1"), some (some "C1"), some ⟨some "2.5", some "1.5"⟩,
      [⟨"button", none, some "yes", none, none, [], none, none, none, none⟩]⟩ := by
    decide +kernel
  have htype : HasType "application/json" "application/json" :=
    .mk (String.append_empty).symm (by decide) (.inl rfl) (by decide +kernel)
  have htype' : HasType "application/x-www-form-urlencoded" "application/x-www-form-urlencoded" :=
    .mk (String.append_empty).symm (by decide) (.inl rfl) (by decide +kernel)
  have hwrites : WritesIn "application/json" threadStartBody "U1" "C1" "1.5" :=
    .mk htype hread rfl rfl rfl rfl
  have hpresses : PressesIn "application/x-www-form-urlencoded" pressInThreadBody "U1" "C1"
      (some "1.5") :=
    .mk htype' hform hread' rfl rfl rfl
  have hcarried : RepliesCarry threadedInbox threadStart (some "1.5") :=
    (repliesCarry_iff _ _ _).mpr rfl
  obtain ⟨hsender, -, hdestination, -⟩ := press_continues_conversation (.inr rfl) (by decide)
    (by decide) hm hwrites hcarried hm' hpresses
  exact ⟨hm, hm', hcarried, hsender, hdestination⟩

end SlackBridge.Proofs
