import SlackBridge.Dialogue.Conversation
import SlackBridge.Proofs.TextForms

/-!
# Keys of conversations

A key puts a sender, a channel and a thread behind each other with underscores between them, and
leaves out what is missing or too fine. Senders and channels hold no underscore, so a key can still
be taken apart: two messages have the same key exactly if they belong to the same conversation.
-/

namespace SlackBridge.Proofs

open Dialogue

/-- Where a message comes from. -/
structure Origin where
  sender : String
  channel : Option String
  thread : Option String

/-- Neither the sender nor the channel holds an underscore. The thread may be any text. -/
structure Origin.IsPlain (o : Origin) : Prop where
  sender : '_' ∉ o.sender.toList
  channel : ∀ channel, o.channel = some channel → '_' ∉ channel.toList

/-- The texts are the same, where a missing one is no different from an empty one. -/
def SameText (s t : Option String) : Prop :=
  s.getD "" = t.getD ""

/-- The messages agree on everything that conversations are divided by. -/
structure SameConversation (g : Granularity) (a b : Origin) : Prop where
  sender : a.sender = b.sender
  channel : g ≠ .sender → SameText a.channel b.channel
  thread : g = .thread → ¬SameText a.channel none → SameText a.thread b.thread

/-! ### Scopes -/

/-- How far a conversation with a sender reaches. -/
inductive Scope
  | everywhere
  | inChannel (channel : String)
  | inThread (channel thread : String)

/-- The scope in which a message from a channel and a thread belongs. -/
def scopeOf (g : Granularity) (channel thread : Option String) : Scope :=
  if g = .sender ∨ channel.getD "" = "" then .everywhere
  else if g = .thread ∧ thread.getD "" ≠ "" then .inThread (channel.getD "") (thread.getD "")
  else .inChannel (channel.getD "")

namespace Scope

/-- What stands behind the sender in a key. -/
def chars : Scope → List Char
  | everywhere => []
  | inChannel c => '_' :: c.toList
  | inThread c t => '_' :: (c.toList ++ '_' :: t.toList)

/-- The channel of the scope holds no underscore. -/
def IsPlain : Scope → Prop
  | everywhere => True
  | inChannel c => '_' ∉ c.toList
  | inThread c _ => '_' ∉ c.toList

lemma eq_of_chars {k k' : Scope} (hk : k.IsPlain) (hk' : k'.IsPlain) (h : k.chars = k'.chars) :
    k = k' := by
  -- an underscore behind the channel of a scope without a thread makes the two ends alike
  have hcut : ∀ {c c' : String} {rest rest' : List Char}, '_' ∉ c.toList → '_' ∉ c'.toList →
      c.toList ++ '_' :: rest = c'.toList ++ '_' :: rest' → c = c' ∧ rest = rest' := by
    intro c c' rest rest' hc hc' heq
    obtain ⟨hlist, hrest⟩ := append_cons_inj_of_first hc hc' heq
    exact ⟨String.toList_inj.mp hlist, hrest⟩
  cases k with
  | everywhere =>
    cases k' with
    | everywhere => rfl
    | inChannel | inThread => cases h
  | inChannel c =>
    cases k' with
    | everywhere => cases h
    | inChannel c' => rw [String.toList_inj.mp (List.cons.inj h).2]
    | inThread c' t' =>
      have hmem : '_' ∈ c.toList := by
        rw [(List.cons.inj h).2]
        exact List.mem_append_right _ List.mem_cons_self
      exact absurd hmem hk
  | inThread c t =>
    cases k' with
    | everywhere => cases h
    | inChannel c' =>
      have hmem : '_' ∈ c'.toList := by
        rw [← (List.cons.inj h).2]
        exact List.mem_append_right _ List.mem_cons_self
      exact absurd hmem hk'
    | inThread c' t' =>
      obtain ⟨rfl, ht⟩ := hcut hk hk' (List.cons.inj h).2
      rw [String.toList_inj.mp ht]

/-- What stands behind the sender is nothing, or starts with an underscore. -/
lemma chars_eq_nil_or_cons (k : Scope) : k.chars = [] ∨ ∃ rest, k.chars = '_' :: rest := by
  cases k with
  | everywhere => exact .inl rfl
  | inChannel | inThread => exact .inr ⟨_, rfl⟩

end Scope

lemma present?_eq_getD (s : Option String) :
    present? s = if s.getD "" = "" then none else some (s.getD "") := by
  cases s with
  | none => rfl
  | some text =>
    unfold present?
    rw [Option.filter_some, Option.getD_some]
    by_cases h : text = ""
    · simp [h]
    · simp [h]

lemma toList_conversationKey (g : Granularity) (o : Origin) :
    (conversationKey g o.sender o.channel o.thread).toList =
      o.sender.toList ++ (scopeOf g o.channel o.thread).chars := by
  have hmark : "_".toList = ['_'] := rfl
  unfold conversationKey scopeOf
  rw [present?_eq_getD, present?_eq_getD]
  by_cases hc : o.channel.getD "" = "" <;> by_cases ht : o.thread.getD "" = "" <;>
    cases g <;> simp [hc, ht, Scope.chars, hmark]

lemma isPlain_scopeOf {o : Origin} (h : o.IsPlain) (g : Granularity) :
    (scopeOf g o.channel o.thread).IsPlain := by
  have hchannel : '_' ∉ (o.channel.getD "").toList := by
    cases hc : o.channel with
    | none => exact List.not_mem_nil
    | some channel => exact h.channel channel hc
  unfold scopeOf
  split_ifs
  · trivial
  · exact hchannel
  · exact hchannel

/-- A key is cut at its first underscore. -/
lemma key_inj {sender sender' : List Char} {k k' : Scope} (hs : '_' ∉ sender)
    (hs' : '_' ∉ sender') (hk : k.IsPlain) (hk' : k'.IsPlain)
    (h : sender ++ k.chars = sender' ++ k'.chars) : sender = sender' ∧ k = k' := by
  have hnot : ∀ {s s' : List Char} {rest : List Char}, '_' ∉ s → s ≠ s' ++ '_' :: rest := by
    rintro s s' rest hs rfl
    exact hs (List.mem_append_right _ List.mem_cons_self)
  have hboth : sender = sender' ∧ k.chars = k'.chars := by
    rcases k.chars_eq_nil_or_cons with hnil | ⟨rest, hrest⟩
    · rw [hnil, List.append_nil] at h
      rcases k'.chars_eq_nil_or_cons with hnil' | ⟨rest', hrest'⟩
      · rw [hnil', List.append_nil] at h
        exact ⟨h, hnil.trans hnil'.symm⟩
      · rw [hrest'] at h
        exact absurd h (hnot hs)
    · rw [hrest] at h
      rcases k'.chars_eq_nil_or_cons with hnil' | ⟨rest', hrest'⟩
      · rw [hnil', List.append_nil] at h
        exact absurd h.symm (hnot hs')
      · rw [hrest'] at h
        obtain ⟨hsender, hchars⟩ := append_cons_inj_of_first hs hs' h
        exact ⟨hsender, by rw [hrest, hrest', hchars]⟩
  exact ⟨hboth.1, Scope.eq_of_chars hk hk' hboth.2⟩

/-- Two messages of one sender are in one scope exactly if nothing sets them apart. -/
lemma scopeOf_eq_iff (g : Granularity) (a b : Origin) :
    scopeOf g a.channel a.thread = scopeOf g b.channel b.thread ↔
      (g ≠ .sender → SameText a.channel b.channel) ∧
      (g = .thread → ¬SameText a.channel none → SameText a.thread b.thread) := by
  unfold scopeOf SameText
  rw [Option.getD_none]
  generalize a.channel.getD "" = c, a.thread.getD "" = t, b.channel.getD "" = c',
    b.thread.getD "" = t'
  cases g with
  | sender => simp
  | channel =>
    by_cases hc : c = "" <;> by_cases hc' : c' = "" <;> grind
  | thread =>
    by_cases hc : c = "" <;> by_cases hc' : c' = "" <;> grind

/-- Keys do not collide: where senders and channels hold no underscore, two messages have the same
key exactly if they belong to the same conversation. -/
theorem same_key_iff_same_conversation (g : Granularity) {a b : Origin} (ha : a.IsPlain)
    (hb : b.IsPlain) :
    conversationKey g a.sender a.channel a.thread = conversationKey g b.sender b.channel b.thread ↔
      SameConversation g a b := by
  have hkeys : conversationKey g a.sender a.channel a.thread =
      conversationKey g b.sender b.channel b.thread ↔
      a.sender = b.sender ∧ scopeOf g a.channel a.thread = scopeOf g b.channel b.thread := by
    rw [← String.toList_inj, toList_conversationKey, toList_conversationKey]
    constructor
    · intro h
      obtain ⟨hsender, hscope⟩ :=
        key_inj ha.sender hb.sender (isPlain_scopeOf ha g) (isPlain_scopeOf hb g) h
      exact ⟨String.toList_inj.mp hsender, hscope⟩
    · rintro ⟨hsender, hscope⟩
      rw [hsender, hscope]
  rw [hkeys, scopeOf_eq_iff]
  constructor
  · rintro ⟨hsender, hchannel, hthread⟩
    exact ⟨hsender, hchannel, hthread⟩
  · intro h
    exact ⟨h.sender, h.channel, h.thread⟩

/-- A message in a thread whose id holds underscores. -/
def inThreadOrigin : Origin :=
  ⟨"U1", some "C1", some "_1_5"⟩

/-- A message of the same user in the same channel, with an empty thread. -/
def inChannelOrigin : Origin :=
  ⟨"U1", some "C1", some ""⟩

theorem same_key_iff_same_conversation_of_thread :
    inThreadOrigin.IsPlain ∧ inChannelOrigin.IsPlain ∧
    SameConversation .channel inThreadOrigin inChannelOrigin ∧
    ¬SameConversation .thread inThreadOrigin inChannelOrigin := by
  have hthread : inThreadOrigin.IsPlain := ⟨by decide, by rintro _ ⟨⟩; decide⟩
  have hchannel : inChannelOrigin.IsPlain := ⟨by decide, by rintro _ ⟨⟩; decide⟩
  refine ⟨hthread, hchannel, ?_, ?_⟩
  · exact (same_key_iff_same_conversation .channel hthread hchannel).mp (by decide)
  · intro h
    exact absurd ((same_key_iff_same_conversation .thread hthread hchannel).mpr h) (by decide)

end SlackBridge.Proofs
