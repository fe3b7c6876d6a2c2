import SlackBridge.Proofs.InteractionTable
import SlackBridge.Proofs.JsonDocuments

/-!
# New members

The sender of a payload may come to say more than the inbox knows of. Whatever members it adds to
the objects of a payload, at any places and with any values, the payload means what it meant before,
as long as the keys are texts and none of them is the name of a field of its own object. A name
counts only where it is a field: a `ts` is new in a user, though not in a message.
-/

namespace SlackBridge.Proofs

open Json Slack

/-- What may become of a part of a document. -/
abbrev Change : Type :=
  Tree → Tree → Prop

/-- A key that is none of the names. -/
def IsNewKey (names : List String) (key : Option String) : Prop :=
  ∀ name ∈ names, key ≠ some name

/-- A key that is a text, and none of the names. -/
def IsNewText (names : List String) (key : Option String) : Prop :=
  ∃ text, key = some text ∧ text ∉ names

section Gains

variable (New : List String → Option String → Prop) (names : List String)
  (inner : List (String × Change))

/-- New members among the members of an object. The parts in the fields of `inner` may change. -/
inductive MembersGain : List (Option String × Tree) → List (Option String × Tree) → Prop
  | nil : MembersGain [] []
  | kept (m : Option String × Tree) {members others : List (Option String × Tree)}
      (h : MembersGain members others) : MembersGain (m :: members) (m :: others)
  | inside {name : String} {change : Change} {t t' : Tree}
      {members others : List (Option String × Tree)} (hchange : (name, change) ∈ inner)
      (ht : change t t') (h : MembersGain members others) :
      MembersGain ((some name, t) :: members) ((some name, t') :: others)
  | new {key : Option String} (hkey : New names key) (t : Tree)
      {members others : List (Option String × Tree)} (h : MembersGain members others) :
      MembersGain members ((key, t) :: others)

/-- The parts of an object that is written as an array of its fields. -/
inductive ItemsGain : List String → List Tree → List Tree → Prop
  | nil (rest : List String) : ItemsGain rest [] []
  | kept (name : String) (t : Tree) {rest : List String} {items others : List Tree}
      (h : ItemsGain rest items others) : ItemsGain (name :: rest) (t :: items) (t :: others)
  | inside {name : String} {change : Change} {t t' : Tree} {rest : List String}
      {items others : List Tree} (hchange : (name, change) ∈ inner) (ht : change t t')
      (h : ItemsGain rest items others) : ItemsGain (name :: rest) (t :: items) (t' :: others)

/-- New members in an object with the given fields, and in the objects inside it. -/
inductive Gains : Change
  | same (t : Tree) : Gains t t
  | object {members others : List (Option String × Tree)}
      (h : MembersGain New names inner members others) : Gains (.object members) (.object others)
  | array {items others : List Tree} (h : ItemsGain inner names items others) :
      Gains (.array items) (.array others)

/-- A change in each item of a list. -/
inductive EachChanges (change : Change) : Change
  | same (t : Tree) : EachChanges change t t
  | array {items others : List Tree} (h : List.Forall₂ change items others) :
      EachChanges change (.array items) (.array others)

/-- New members in something that happened in a channel. -/
def HappeningGains : Change :=
  Gains New ["type", "subtype", "user", "text", "channel", "channel_type", "ts", "thread_ts",
    "bot_id"] []

/-- New members in a payload of the Events API, its event and its authorizations. -/
def EventGains : Change :=
  Gains New ["type", "challenge", "event_id", "event", "authed_users", "authorizations"] [
    ("event", HappeningGains New),
    ("authorizations", EachChanges (Gains New ["user_id"] []))]

/-- New members in an action and the options selected in it. -/
def ActionGains : Change :=
  Gains New ["type", "action_id", "value", "url", "selected_option", "selected_options",
    "selected_conversation", "selected_user", "selected_channel", "selected_date"] [
    ("selected_option", Gains New ["value"] []),
    ("selected_options", EachChanges (Gains New ["value"] []))]

/-- New members in an interaction, its user, channel and message, and its actions. -/
def InteractionGains : Change :=
  Gains New ["type", "user", "channel", "message", "actions"] [
    ("user", Gains New ["id"] []),
    ("channel", Gains New ["id"] []),
    ("message", Gains New ["ts", "thread_ts"] []),
    ("actions", EachChanges (ActionGains New))]

/-- New members in the payload that a body carries, however both are written. -/
inductive BodyGains (contentType : String) : Bytes → Bytes → Prop
  | event {t t' : Tree} {body body' : Bytes} (htype : HasType contentType "application/json")
      (h : Written t body) (hgains : EventGains New t t') (h' : Written t' body') :
      BodyGains contentType body body'
  | interaction {t t' : Tree} {payload payload' : String} {body body' : Bytes}
      (htype : HasType contentType "application/x-www-form-urlencoded")
      (hpayload : FirstPayload (Form.fields body) payload) (h : Written t (Text.utf8 payload))
      (hgains : InteractionGains New t t') (h' : Written t' (Text.utf8 payload'))
      (hpayload' : FirstPayload (Form.fields body') payload') :
      BodyGains contentType body body'

end Gains

/-! ### Records -/

section Records

variable {inner : List (String × Change)} {names : List String} {name : String} {t t' : Tree}

/-- The same field, with a change in it where one is allowed. -/
inductive FieldChanges (inner : List (String × Change)) : String × Tree → String × Tree → Prop
  | same (field : String × Tree) : FieldChanges inner field field
  | inside {name : String} {change : Change} {t t' : Tree} (hchange : (name, change) ∈ inner)
      (ht : change t t') : FieldChanges inner (name, t) (name, t')

/-- Records that differ only by changes inside their fields. -/
structure RecordChanges (inner : List (String × Change)) (r r' : Record) : Prop where
  given : List.Forall₂ (FieldChanges inner) r.given r'.given
  positional : r.positional = r'.positional

lemma map_fst_eq_of_forall₂ {fields others : List (String × Tree)}
    (h : List.Forall₂ (FieldChanges inner) fields others) :
    fields.map Prod.fst = others.map Prod.fst := by
  induction h with
  | nil => rfl
  | cons hfield _ ih =>
    rw [List.map_cons, List.map_cons, ih]
    cases hfield <;> rfl

/-- The known members are the same ones: a new member is passed over. -/
lemma known?_of_membersGain {members others : List (Option String × Tree)}
    (h : MembersGain IsNewText names inner members others) :
    Option.Rel (List.Forall₂ (FieldChanges inner)) (Record.known? names members)
      (Record.known? names others) := by
  have hcons : ∀ {key : String} {t t' : Tree} {found found' : Option (List (String × Tree))},
      FieldChanges inner (key, t) (key, t') →
      Option.Rel (List.Forall₂ (FieldChanges inner)) found found' →
      Option.Rel (List.Forall₂ (FieldChanges inner))
        (found.map fun found => if names.contains key then (key, t) :: found else found)
        (found'.map fun found => if names.contains key then (key, t') :: found else found) := by
    intro key t t' found found' hfield hfound
    cases hfound with
    | none => exact .none
    | some hfound =>
      refine .some ?_
      cases names.contains key with
      | true => exact .cons hfield hfound
      | false => exact hfound
  induction h with
  | nil => exact .some .nil
  | kept m _ ih =>
    obtain ⟨key, t⟩ := m
    cases key with
    | none => exact .none
    | some key => exact hcons (.same _) ih
  | inside hchange ht _ ih => exact hcons (.inside hchange ht) ih
  | @new key hkey t members others _ ih =>
    obtain ⟨text, rfl, htext⟩ := hkey
    have hcontains : names.contains text = false := by
      rw [← Bool.not_eq_true, List.contains_iff_mem]
      exact htext
    have hpassed : Record.known? names ((some text, t) :: others) = Record.known? names others := by
      rw [Record.known?, hcontains]
      exact Option.map_id'
    rw [hpassed]
    exact ih

lemma forall₂_zip_of_itemsGain {items others : List Tree}
    (h : ItemsGain inner names items others) :
    List.Forall₂ (FieldChanges inner) (names.zip items) (names.zip others) ∧
      items.length = others.length := by
  induction h with
  | nil => exact ⟨by rw [List.zip_nil_right]; exact .nil, rfl⟩
  | kept name t _ ih => exact ⟨.cons (.same _) ih.1, congrArg (· + 1) ih.2⟩
  | inside hchange ht _ ih => exact ⟨.cons (.inside hchange ht) ih.1, congrArg (· + 1) ih.2⟩

lemma RecordChanges.refl (r : Record) : RecordChanges inner r r :=
  ⟨List.forall₂_same.mpr fun field _ => .same field, rfl⟩

/-- The same record is read, with changes in its fields, or none is read before and after. -/
lemma read?_of_gains (h : Gains IsNewText names inner t t') :
    Option.Rel (RecordChanges inner) (Record.read? names t) (Record.read? names t') := by
  cases h with
  | same =>
    cases Record.read? names t with
    | none => exact .none
    | some r => exact .some (.refl r)
  | object h =>
    have hknown := known?_of_membersGain h
    unfold Record.read?
    dsimp only
    generalize Record.known? names _ = found at hknown ⊢
    generalize Record.known? names _ = found' at hknown ⊢
    cases hknown with
    | none => exact .none
    | some hfields =>
      dsimp only
      rw [map_fst_eq_of_forall₂ hfields]
      split
      · exact .some ⟨hfields, rfl⟩
      · exact .none
  | array h =>
    obtain ⟨hfields, hlength⟩ := forall₂_zip_of_itemsGain h
    unfold Record.read?
    dsimp only
    rw [hlength]
    split
    · exact .some ⟨hfields, rfl⟩
    · exact .none

end Records

/-! ### Decoders -/

section Decoders

variable {α : Type} {inner : List (String × Change)} {names : List String} {name : String}
  {t t' : Tree} {r r' : Record} {decode : Decoder α}

/-- The decoder does not see the change. -/
def Unseen (decode : Decoder α) (change : Change) : Prop :=
  ∀ t t', change t t' → decode t' = decode t

lemma rel_lookup {fields fields' : List (String × Tree)}
    (h : List.Forall₂ (FieldChanges inner) fields fields')
    (hunseen : ∀ change, (name, change) ∈ inner → Unseen decode change) :
    Option.Rel (fun t t' => decode t' = decode t) (fields.lookup name) (fields'.lookup name) := by
  induction h with
  | nil => exact .none
  | @cons field field' _ _ hfield _ ih =>
    have hkey : field.1 = field'.1 := by cases hfield <;> rfl
    rw [List.lookup_cons, List.lookup_cons, ← hkey]
    by_cases hname : name = field.1
    · subst hname
      rw [beq_self_eq_true]
      refine .some ?_
      cases hfield with
      | same => rfl
      | inside hchange ht => exact hunseen _ hchange _ _ ht
    · rw [beq_eq_false_iff_ne.mpr hname]
      exact ih

/-- A field is decoded to the same, if its decoder sees none of the changes allowed in it. -/
lemma withDefault_eq (h : RecordChanges inner r r')
    (hunseen : ∀ change, (name, change) ∈ inner → Unseen decode change) (default : α) :
    r'.withDefault name default decode = r.withDefault name default decode := by
  have hget : Option.Rel (fun t t' => decode t' = decode t) (r.get? name) (r'.get? name) :=
    rel_lookup h.given hunseen
  unfold Record.withDefault
  generalize r.get? name = field at hget ⊢
  generalize r'.get? name = field' at hget ⊢
  cases hget with
  | none => rfl
  | some hdecode => exact hdecode

lemma withDefault_eq_of_notMem (h : RecordChanges inner r r') (hname : name ∉ inner.map Prod.fst)
    (default : α) : r'.withDefault name default decode = r.withDefault name default decode :=
  withDefault_eq h (fun _ hchange => absurd (List.mem_map_of_mem hchange) hname) default

lemma withDefault_eq_of_unseen {change : Change} (h : RecordChanges inner r r')
    (honly : ∀ c, (name, c) ∈ inner → c = change) (hunseen : Unseen decode change) (default : α) :
    r'.withDefault name default decode = r.withDefault name default decode :=
  withDefault_eq h (fun c hc => honly c hc ▸ hunseen) default

lemma unseen_nullable_gains {New : List String → Option String → Prop}
    (h : Unseen decode (Gains New names inner)) :
    Unseen (Decoder.nullable decode) (Gains New names inner) := by
  intro t t' ht
  have hdecode := h t t' ht
  cases ht with
  | same => rfl
  | object => exact congrArg (Option.map some) hdecode
  | array => exact congrArg (Option.map some) hdecode

lemma unseen_list {change : Change} (h : Unseen decode change) :
    Unseen (Decoder.list decode) (EachChanges change) := by
  intro t t' ht
  cases ht with
  | same => rfl
  | array hitems =>
    change List.mapM _ _ = List.mapM _ _
    induction hitems with
    | nil => rfl
    | cons hitem _ ih => rw [List.mapM_cons, List.mapM_cons, h _ _ hitem, ih]

/-- What is decoded from the fields of an object is the same, if the same is decoded from each. -/
lemma unseen_record {f : Record → Option α}
    (h : ∀ r r', RecordChanges inner r r' → f r' = f r) :
    Unseen (fun t => (Record.read? names t).bind f) (Gains IsNewText names inner) := by
  intro t t' ht
  have hread := read?_of_gains ht
  dsimp only
  generalize Record.read? names t = found at hread ⊢
  generalize Record.read? names t' = found' at hread ⊢
  cases hread with
  | none => rfl
  | some hr => exact h _ _ hr

lemma eq_of_recordChanges_nil (h : RecordChanges [] r r') : r' = r := by
  obtain ⟨hgiven, hpositional⟩ := h
  have hfields : r.given = r'.given := by
    rw [← List.forall₂_eq_eq_eq]
    refine hgiven.imp fun field field' hfield => ?_
    cases hfield with
    | same => rfl
    | inside hchange => cases hchange
  obtain ⟨given, positional⟩ := r
  obtain ⟨given', positional'⟩ := r'
  cases hfields
  cases hpositional
  rfl

/-- Where nothing inside the fields may change, whatever is made of them stays the same. -/
lemma unseen_leaf (f : Record → Option α) :
    Unseen (fun t => (Record.read? names t).bind f) (Gains IsNewText names []) :=
  unseen_record fun _ _ h => congrArg f (eq_of_recordChanges_nil h)

end Decoders

lemma unseen_messageEvent : Unseen MessageEvent.decode (HappeningGains IsNewText) :=
  unseen_leaf _

lemma unseen_eventPayload : Unseen EventPayload.decode (EventGains IsNewText) := by
  refine unseen_record fun r r' h => ?_
  have htext : ∀ name ∉ ["event", "authorizations"],
      r'.optional name Decoder.string = r.optional name Decoder.string :=
    fun _ hname => withDefault_eq_of_notMem h hname none
  have hhappening : Unseen (Decoder.nullable MessageEvent.decode) (HappeningGains IsNewText) :=
    unseen_nullable_gains unseen_messageEvent
  have hevent : r'.optional "event" MessageEvent.decode = r.optional "event" MessageEvent.decode :=
    withDefault_eq_of_unseen h (by simp) hhappening none
  have husers : r'.optional "authed_users" (Decoder.list Decoder.string) =
      r.optional "authed_users" (Decoder.list Decoder.string) :=
    withDefault_eq_of_notMem h (by decide) none
  have hauthorizations :
      r'.withDefault "authorizations" [] (Decoder.list EventPayload.decodeAuthorization) =
        r.withDefault "authorizations" [] (Decoder.list EventPayload.decodeAuthorization) :=
    withDefault_eq_of_unseen h (by simp) (unseen_list (unseen_leaf _)) []
  simp only [htext "type" (by decide), htext "challenge" (by decide), htext "event_id" (by decide),
    hevent, husers, hauthorizations]

lemma unseen_action : Unseen Action.decode (ActionGains IsNewText) := by
  refine unseen_record fun r r' h => ?_
  have hsingle : Unseen (decodeSingle "value") (Gains IsNewText ["value"] []) := unseen_leaf _
  have hkind : r'.withDefault "type" "" Decoder.string = r.withDefault "type" "" Decoder.string :=
    withDefault_eq_of_notMem h (by decide) ""
  have htext : ∀ name ∉ ["selected_option", "selected_options"],
      r'.optional name Decoder.string = r.optional name Decoder.string :=
    fun _ hname => withDefault_eq_of_notMem h hname none
  have hoption : r'.optional "selected_option" (decodeSingle "value") =
      r.optional "selected_option" (decodeSingle "value") :=
    withDefault_eq_of_unseen h (by simp) (unseen_nullable_gains hsingle) none
  have hoptions : r'.withDefault "selected_options" [] (Decoder.list (decodeSingle "value")) =
      r.withDefault "selected_options" [] (Decoder.list (decodeSingle "value")) :=
    withDefault_eq_of_unseen h (by simp) (unseen_list hsingle) []
  simp only [hkind, htext "action_id" (by decide), htext "value" (by decide),
    htext "url" (by decide), hoption, hoptions, htext "selected_conversation" (by decide),
    htext "selected_user" (by decide), htext "selected_channel" (by decide),
    htext "selected_date" (by decide)]

lemma unseen_interactionPayload :
    Unseen InteractionPayload.decode (InteractionGains IsNewText) := by
  refine unseen_record fun r r' h => ?_
  have hid : Unseen (Decoder.nullable (decodeSingle "id")) (Gains IsNewText ["id"] []) :=
    unseen_nullable_gains (unseen_leaf _)
  have hkind : r'.optional "type" Decoder.string = r.optional "type" Decoder.string :=
    withDefault_eq_of_notMem h (by decide) none
  have huser : r'.optional "user" (decodeSingle "id") = r.optional "user" (decodeSingle "id") :=
    withDefault_eq_of_unseen h (by simp) hid none
  have hchannel :
      r'.optional "channel" (decodeSingle "id") = r.optional "channel" (decodeSingle "id") :=
    withDefault_eq_of_unseen h (by simp) hid none
  have hmessage :
      r'.optional "message" MessageRef.decode = r.optional "message" MessageRef.decode :=
    withDefault_eq_of_unseen h (by simp) (unseen_nullable_gains (unseen_leaf _)) none
  have hactions : r'.withDefault "actions" [] (Decoder.list Action.decode) =
      r.withDefault "actions" [] (Decoder.list Action.decode) :=
    withDefault_eq_of_unseen h (by simp) (unseen_list unseen_action) []
  simp only [hkind, huser, hchannel, hmessage, hactions]

/-! ### Bodies -/

/-- A body of another type is not looked at. -/
lemma classify_of_other_type {contentType : Option String}
    (h : ∀ s, contentType = some s → ¬HasType s "application/json" ∧
      ¬HasType s "application/x-www-form-urlencoded") (i : Inbox) (body body' : Bytes) :
    i.classify contentType body' = i.classify contentType body := by
  have hdeclared : ∀ type ≠ "", (contentType.map essence).getD "" = type →
      ∃ s, contentType = some s ∧ HasType s type := by
    intro type hne htype
    cases contentType with
    | none => exact absurd htype.symm hne
    | some s => exact ⟨s, rfl, hasType_of_essence_eq htype⟩
  unfold Inbox.classify
  split
  · next htype =>
    obtain ⟨s, hs, hjson⟩ := hdeclared _ (by decide) htype
    exact absurd hjson (h s hs).1
  · next htype =>
    obtain ⟨s, hs, hform⟩ := hdeclared _ (by decide) htype
    exact absurd hform (h s hs).2
  · rfl

/-- A document is read exactly from its writings, and whatever new members a payload gains, the body
that carries it means the same, down to what is logged. A body of another type means the same
whatever it is. -/
theorem new_members_change_nothing (i : Inbox) :
    (∀ bytes t, Tree.read? bytes = some t ↔ Written t bytes) ∧
    (∀ contentType body body', BodyGains IsNewText contentType body body' →
      i.classify (some contentType) body' = i.classify (some contentType) body) ∧
    ∀ contentType, (∀ s, contentType = some s → ¬HasType s "application/json" ∧
        ¬HasType s "application/x-www-form-urlencoded") →
      ∀ body body', i.classify contentType body' = i.classify contentType body := by
  refine ⟨read?_iff_written, fun contentType body body' h => ?_,
    fun contentType hother => classify_of_other_type hother i⟩
  cases h with
  | event htype h hgains h' =>
    have hread : EventPayload.read? body' = EventPayload.read? body := by
      unfold EventPayload.read?
      rw [(read?_iff_written _ _).mpr h, (read?_iff_written _ _).mpr h', Option.bind_some,
        Option.bind_some, unseen_eventPayload _ _ hgains]
    rw [htype.classify_json, htype.classify_json, hread]
  | @interaction _ _ payload payload' _ _ htype hpayload h hgains h' hpayload' =>
    have hread : InteractionPayload.read? (Text.utf8 payload') =
        InteractionPayload.read? (Text.utf8 payload) := by
      unfold InteractionPayload.read?
      rw [(read?_iff_written _ _).mpr h, (read?_iff_written _ _).mpr h', Option.bind_some,
        Option.bind_some, unseen_interactionPayload _ _ hgains]
    rw [htype.classify_form, htype.classify_form]
    unfold Inbox.readForm
    rw [(value?_payload_eq_some_iff _ _).mpr hpayload,
      (value?_payload_eq_some_iff _ _).mpr hpayload']
    dsimp only
    rw [hread]

/-- A mention of the bot, as `mentionBody` writes it. -/
def mentionTree : Tree :=
  let text := fun s : String => Tree.string (some s)
  objectTree [
    ("event", objectTree [("type", text "app_mention"), ("user", text "U1"),
      ("text", text "<@B1> hi"), ("channel", text "C2"), ("ts", text "2.5"),
      ("thread_ts", text "1.5")]),
    ("authorizations", .array [objectTree [("user_id", text "B1")]])]

/-- The same mention with new members: in the payload, in the event, where a string without a text
is skipped, and twice in the authorization. -/
def newerMentionTree : Tree :=
  let text := fun s : String => Tree.string (some s)
  objectTree [
    ("user", text "U2"),
    ("event", objectTree [("type", text "app_mention"), ("user", text "U1"),
      ("challenge", .array [.string none, objectTree [("ts", .null)]]),
      ("text", text "<@B1> hi"), ("channel", text "C2"), ("ts", text "2.5"),
      ("thread_ts", text "1.5")]),
    ("authorizations", .array [objectTree [("type", .bool true), ("user_id", text "B1"),
      ("type", .null)]])]

def newerMentionBody : Bytes :=
  Text.utf8 <| "\x7b\"user\":\"U2\",\"event\":\x7b\"type\":\"app_mention\",\"user\":\"U1\"," ++
    "\"challenge\":[\"\\ud800\",\x7b\"ts\":null\x7d],\"text\":\"<@B1> hi\",\"channel\":\"C2\"," ++
    "\"ts\":\"2.5\",\"thread_ts\":\"1.5\"\x7d,\"authorizations\":[\x7b\"type\":true," ++
    "\"user_id\":\"B1\",\"type\":null\x7d]\x7d"

set_option maxRecDepth 8000 in
lemma written_mentionTree : Written mentionTree mentionBody :=
  (read?_iff_written _ _).mp rfl

set_option maxRecDepth 8000 in
lemma written_newerMentionTree : Written newerMentionTree newerMentionBody :=
  (read?_iff_written _ _).mp rfl

theorem new_members_change_nothing_in_mention :
    BodyGains IsNewText " Application/JSON ; charset=utf-8" mentionBody newerMentionBody ∧
    channelInbox.classify (some " Application/JSON ; charset=utf-8") newerMentionBody =
      channelInbox.classify (some " Application/JSON ; charset=utf-8") mentionBody := by
  have hinside : MembersGain IsNewText ["user_id"] [] [(some "user_id", .string (some "B1"))]
      [(some "type", .bool true), (some "user_id", .string (some "B1")), (some "type", .null)] :=
    .new ⟨"type", rfl, by decide⟩ _ (.kept _ (.new ⟨"type", rfl, by decide⟩ _ .nil))
  have hevent : EventGains IsNewText mentionTree newerMentionTree := by
    refine .object (.new ⟨"user", rfl, by decide⟩ _ (.inside List.mem_cons_self ?event
      (.inside (List.mem_cons_of_mem _ List.mem_cons_self) ?authorizations .nil)))
    case event =>
      exact .object (.kept _ (.kept _ (.new ⟨"challenge", rfl, by decide⟩ _
        (.kept _ (.kept _ (.kept _ (.kept _ .nil)))))))
    case authorizations => exact .array (.cons (.object hinside) .nil)
  have hbody := BodyGains.event hasType_padded written_mentionTree hevent written_newerMentionTree
  exact ⟨hbody, (new_members_change_nothing channelInbox).2.1 _ _ _ hbody⟩

/-! ### Keys that are no texts -/

def challengeTree : Tree :=
  .object [(some "challenge", .string (some "c"))]

def challengeBody : Bytes :=
  Text.utf8 "\x7b\"challenge\":\"c\"\x7d"

/-- The same handshake with a member whose key is half a surrogate pair. -/
def halfPairTree : Tree :=
  .object [(none, .number (some (.integer 1))), (some "challenge", .string (some "c"))]

def halfPairBody : Bytes :=
  Text.utf8 "\x7b\"\\ud800\":1,\"challenge\":\"c\"\x7d"

/-- A key is always read as a text, so a new member whose key is none makes its body malformed. -/
theorem exists_new_member_that_changes_the_meaning :
    ¬∀ (i : Inbox) (contentType : String) (body body' : Bytes),
      BodyGains IsNewKey contentType body body' →
        i.classify (some contentType) body' = i.classify (some contentType) body := by
  intro h
  have htype : HasType "application/json" "application/json" :=
    .mk String.append_empty.symm (by decide) (.inl rfl) (by decide +kernel)
  have hnew : IsNewKey ["type", "challenge", "event_id", "event", "authed_users", "authorizations"]
      none := fun _ _ hkey => by cases hkey
  have hwritten : Written challengeTree challengeBody := (read?_iff_written _ _).mp rfl
  have hwritten' : Written halfPairTree halfPairBody := (read?_iff_written _ _).mp rfl
  have hgains : EventGains IsNewKey challengeTree halfPairTree :=
    .object (.new hnew _ (.kept _ .nil))
  have hequal := h channelInbox _ _ _ (.event htype hwritten hgains hwritten')
  rw [htype.classify_json, htype.classify_json] at hequal
  have hbefore : EventPayload.read? challengeBody = some ⟨none, some "c", none, none, none, []⟩ :=
    rfl
  have hafter : EventPayload.read? halfPairBody = none := rfl
  rw [hbefore, hafter] at hequal
  cases hequal

end SlackBridge.Proofs
