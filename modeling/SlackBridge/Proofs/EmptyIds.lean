import SlackBridge.Proofs.ConversationContinuity
import SlackBridge.Proofs.ConversationKeys

/-!
# Empty ids

A message may come with an empty channel or an empty thread. The key of its conversation takes an
empty id for none. The destination of the answers takes it for an id: they go to the channel and
into the thread whose id is empty, where without any id they would go to the configured channel and
outside threads.
-/

namespace SlackBridge.Proofs

open Json Dialogue Slack

/-- The ids without the empty ones. -/
def withoutEmpty (ids : Metadata) : Metadata :=
  { ids with outChannel := present? ids.outChannel, threadId := present? ids.threadId }

lemma present?_present? (s : Option String) : present? (present? s) = present? s := by
  unfold present?
  rw [Option.filter_filter]
  simp only [Bool.and_self]

/-- Leaving out the empty text makes no difference exactly if there is none. -/
lemma present?_eq_self_iff (s : Option String) : present? s = s ↔ s ≠ some "" := by
  rw [present?_eq_getD]
  cases s with
  | none => simp
  | some text => by_cases h : text = "" <;> simp [h]

lemma conversationKey_present? (g : Granularity) (user : String) (channel thread : Option String) :
    conversationKey g user (present? channel) (present? thread) =
      conversationKey g user channel thread := by
  unfold conversationKey
  rw [present?_present?, present?_present?]

/-! ### What the answers do with them -/

/-- The posts that reply to a message go to the given channel, to whomever they are meant. A custom
payload may bring a channel of its own. -/
def RepliesGoTo (i : Inbox) (m : Message) (channel : String) : Prop :=
  ∀ recipient part posts, (i.destinationFor m.metadata).posts recipient part = .ok posts →
    ownFields part = [] → ∀ p ∈ posts, p.get? "channel" = some (.string channel)

/-- The replies to a message go where their destination says, if it names a channel at all. -/
lemma repliesGoTo_iff (i : Inbox) (m : Message) (channel : String) :
    RepliesGoTo i m channel ↔ (i.destinationFor m.metadata).channel = some channel := by
  constructor
  · intro h
    have hchannel : ∀ recipient,
        (i.destinationFor m.metadata).channelFor recipient = channel := by
      intro recipient
      have hposts :
          (i.destinationFor m.metadata).posts recipient (.attachment .null) = .ok _ := rfl
      have hgoes := h recipient (.attachment .null) _ hposts rfl _ (List.mem_singleton_self _)
      have haddress := addressed_of_mem_posts hposts (List.mem_singleton_self _)
      exact Value.string.inj (Option.some.inj (haddress.channel.symm.trans hgoes))
    -- two recipients would be written to in two channels
    cases hd : (i.destinationFor m.metadata).channel with
    | some c =>
      have hsame := hchannel ""
      rw [Destination.channelFor, hd, Option.getD_some] at hsame
      rw [hsame]
    | none =>
      have hfirst := hchannel ""
      have hsecond := hchannel "a"
      rw [Destination.channelFor, hd, Option.getD_none] at hfirst hsecond
      exact absurd (hfirst.trans hsecond.symm) (by decide)
  · intro hd recipient part posts hposts hown p hp
    have haddress := (addressed_of_mem_posts hposts hp).channel
    rw [hown, Destination.channelFor, hd] at haddress
    exact haddress

lemma channel_destinationFor (i : Inbox) (ids : Metadata) :
    (i.destinationFor ids).channel = ids.outChannel.or i.channel :=
  Option.orElse_eq_or ..

/-- An empty channel makes a difference unless the configured one is empty too. -/
lemma channel_destinationFor_withoutEmpty (i : Inbox) (ids : Metadata) :
    (i.destinationFor ids).channel = (i.destinationFor (withoutEmpty ids)).channel ↔
      (ids.outChannel = some "" → i.channel = some "") := by
  have hkeep : (withoutEmpty ids).outChannel = present? ids.outChannel := rfl
  rw [channel_destinationFor, channel_destinationFor, hkeep]
  by_cases hempty : ids.outChannel = some ""
  · have hnone : present? (some "") = none := rfl
    rw [hempty, hnone, Option.some_or, Option.none_or]
    simp only [true_imp_iff, eq_comm]
  · rw [(present?_eq_self_iff _).mpr hempty]
    simp only [hempty, false_imp_iff]

/-- An empty thread makes a difference where threads are in use. -/
lemma thread_destinationFor_withoutEmpty (i : Inbox) (ids : Metadata) :
    (i.destinationFor ids).thread = (i.destinationFor (withoutEmpty ids)).thread ↔
      (ids.threadId = some "" → i.useThreads = false) := by
  unfold Inbox.destinationFor Inbox.destination withoutEmpty
  cases i.useThreads with
  | false => simp
  | true =>
    simp only [if_true, @eq_comm _ ids.threadId, present?_eq_self_iff, ne_eq, reduceCtorEq,
      imp_false]

/-- Empty ids leave the key of a conversation as it is without them, but not the destination of its
answers: that stays the same exactly if the configured channel is as empty as the one that was
given, and no empty thread is given where threads are in use. The answers do go to a channel
without a name and into a thread without a name. -/
theorem empty_ids_reach_answers (i : Inbox) (user text : String) (ids : Metadata) :
    (i.message user text ids).sender = (i.message user text (withoutEmpty ids)).sender ∧
    (i.destinationFor ids = i.destinationFor (withoutEmpty ids) ↔
      (ids.outChannel = some "" → i.channel = some "") ∧
      (ids.threadId = some "" → i.useThreads = false)) ∧
    (RepliesGoTo i (i.message user text ids) "" ↔
      ids.outChannel = some "" ∨ ids.outChannel = none ∧ i.channel = some "") ∧
    (RepliesCarry i (i.message user text ids) (some "") ↔
      i.useThreads = true ∧ ids.threadId = some "") := by
  have hids : (i.message user text ids).metadata = ids := rfl
  refine ⟨(conversationKey_present? ..).symm, ?_, ?_, ?_⟩
  · rw [← channel_destinationFor_withoutEmpty, ← thread_destinationFor_withoutEmpty]
    exact iff_of_eq (Destination.mk.injEq ..)
  · rw [repliesGoTo_iff, hids, channel_destinationFor, Option.or_eq_some_iff]
  · rw [repliesCarry_iff, replyThread, hids]
    cases i.useThreads <;> simp [eq_comm]

/-- An inbox with a channel of its own and threads in use. -/
def threadedChannelInbox : Inbox :=
  ⟨some "C1", true, .thread, ⟨⟨"k"⟩, 300⟩, ⟨"r", "n", []⟩⟩

/-- A direct message whose channel and time are empty. -/
def emptyIdsBody : Bytes :=
  Text.utf8 <| "\x7b\"event\":\x7b\"type\":\"message\",\"user\":\"U1\",\"text\":\"hi\"," ++
    "\"channel\":\"\",\"channel_type\":\"im\",\"ts\":\"\"\x7d\x7d"

def emptyIds : Metadata :=
  ⟨some "", some "", []⟩

/-- The inbox reads a message with empty ids, keeps the key that it has without them, and answers
neither where its own channel says nor outside threads. -/
theorem empty_ids_of_direct_message :
    (threadedChannelInbox.classify (some "application/json") emptyIdsBody).result =
      .ok (.message (threadedChannelInbox.message "U1" "hi" emptyIds)) ∧
    (threadedChannelInbox.message "U1" "hi" emptyIds).sender = "U1" ∧
    threadedChannelInbox.destinationFor emptyIds = ⟨some "", some ""⟩ ∧
    threadedChannelInbox.destinationFor (withoutEmpty emptyIds) = ⟨some "C1", none⟩ ∧
    ¬∀ (i : Inbox) (ids : Metadata),
      i.destinationFor ids = i.destinationFor (withoutEmpty ids) := by
  have hclassify : (threadedChannelInbox.classify (some "application/json") emptyIdsBody).result =
      .ok (.message (threadedChannelInbox.message "U1" "hi" emptyIds)) := by
    apply eq_ok_of_toOption
    decide +kernel
  have hwith : threadedChannelInbox.destinationFor emptyIds = ⟨some "", some ""⟩ := rfl
  have hwithout : threadedChannelInbox.destinationFor (withoutEmpty emptyIds) =
      ⟨some "C1", none⟩ := rfl
  refine ⟨hclassify, rfl, hwith, hwithout, fun h => ?_⟩
  have hsame := h threadedChannelInbox emptyIds
  rw [hwith, hwithout] at hsame
  exact absurd hsame (by decide)

end SlackBridge.Proofs
