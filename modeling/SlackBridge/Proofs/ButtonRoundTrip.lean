import Mathlib.Data.List.Forall2
import Mathlib.Data.List.Nodup
import SlackBridge.Proofs.EventTable
import SlackBridge.Proofs.FormFields
import SlackBridge.Proofs.JsonRecords
import SlackBridge.Proofs.JsonTrees
import SlackBridge.Proofs.Recording

/-!
# Buttons, there and back

A button goes out as an element of a posted message and comes back inside a form when it is pressed.
Whatever characters its payload has, and however the form and its document are written, the press is
read as a message with that payload.
-/

namespace SlackBridge.Proofs

open Json Dialogue Slack

/-- A post of two blocks. The second has an element for each button, in order, under an id of its
own. -/
structure OffersButtons (p : Post) (buttons : List Button) (elements : List Members) : Prop where
  blocks : ∃ prompt block, p.get? "blocks" = some (.array [prompt, .object block]) ∧
    Members.get? "elements" block = some (.array (elements.map .object))
  labels : List.Forall₂ (fun (b : Button) element => Members.get? "text" element =
    some (.object [("type", .string "plain_text"), ("text", .string b.title)])) buttons elements
  ids : ∃ ids : List String, ids.Nodup ∧
    elements.map (Members.get? "action_id") = ids.map fun id => some (.string id)

/-- A document in which a user acts on an element of a message. The element is sent back as it is,
with its members in any order. -/
structure IsPress (element : Members) (user : String) (channel thread : Option String)
    (members : List (String × Tree)) : Prop where
  keys : (members.map Prod.fst).Nodup
  kind : ∃ kind, HoldsText members "type" kind
  user : ∃ inner, HoldsObject members "user" inner ∧ HoldsText inner "id" (some user)
  channel : ∃ inner, HoldsObject members "channel" inner ∧ HoldsText inner "id" channel
  message : ∃ inner ts threadTs, HoldsObject members "message" inner ∧ HoldsText inner "ts" ts ∧
    HoldsText inner "thread_ts" threadTs ∧ thread = threadTs.or ts
  actions : ∃ action others more,
    members.lookup "actions" = some (.array (objectTree action :: others)) ∧
    action.Perm (element.map fun m => (m.1, valueTree m.2)) ∧
    List.Forall₂ (fun t a => Action.decode t = some a) others more

/-- A request with the document in the field `payload` of a form. -/
inductive Carries (contentType : String) (body : Bytes) (members : List (String × Tree)) : Prop
  | mk {fields : List (String × String)} {document : String}
      (htype : HasType contentType "application/x-www-form-urlencoded")
      (hform : EncodesForm fields body) (hfield : fields.lookup "payload" = some document)
      (hdocument : Spells (treeTokens (objectTree members)) (Text.utf8 document))

/-- What it means that a button is pressed: its payload as a message, if it has one. -/
inductive PressMeans (i : Inbox) (b : Button) (user : String) (channel thread : Option String) :
    Except Unprocessable Delivery → Prop
  | message (h : b.payload ≠ "") : PressMeans i b user channel thread (.ok (.message {
      text := b.payload
      sender := conversationKey i.granularity user channel thread
      inputChannel := "slack"
      metadata := ⟨channel, thread, [user]⟩ }))
  | link {reason : IgnoreReason} (h : b.payload = "")
      (hreason : reason.text = "User clicked link button.") :
      PressMeans i b user channel thread (.ok (.ignored reason))

/-! ### Elements -/

/-- The members of the element for a button. -/
def elementMembers (e : ButtonElement) : Members :=
  [("type", .string "button"), ("action_id", .string e.actionId),
    ("text", (TextObject.plain e.label).value)] ++ e.value.toList.map fun v => ("value", .string v)

/-- The elements that some buttons are posted as. -/
def postedElements (buttons : List Button) : List Members :=
  (Template.buttonElements 0 buttons).map elementMembers

lemma buttonElements_values (index : ℕ) (buttons : List Button) :
    List.Forall₂ (fun b e => e.label = b.title ∧ e.value = some b.payload) buttons
      (Template.buttonElements index buttons) := by
  induction buttons generalizing index with
  | nil => exact .nil
  | cons b rest ih => exact .cons ⟨rfl, rfl⟩ (ih (index + 1))

lemma buttonElements_ids (index : ℕ) (buttons : List Button) :
    (Template.buttonElements index buttons).map ButtonElement.actionId =
      (List.range' index buttons.length).map fun n => "parley.button." ++ toString n := by
  induction buttons generalizing index with
  | nil => rfl
  | cons b rest ih =>
    rw [Template.buttonElements, List.map_cons, ih, List.length_cons, List.range'_succ,
      List.map_cons]

lemma nodup_ids (index : ℕ) (buttons : List Button) :
    ((Template.buttonElements index buttons).map ButtonElement.actionId).Nodup := by
  have hinjective : Function.Injective fun n : ℕ => "parley.button." ++ toString n := by
    intro m n h
    have hdigits : Nat.toDigits 10 m = Nat.toDigits 10 n := by
      rw [← String.ofList_inj, ← Nat.toString_eq_ofList_toDigits, ← Nat.toString_eq_ofList_toDigits]
      exact (String.append_right_inj _).mp h
    rw [← Nat.ofDigitChars_ten_toDigits (n := m), hdigits, Nat.ofDigitChars_ten_toDigits]
  rw [buttonElements_ids]
  exact (List.nodup_range' ..).map hinjective

lemma get?_blocks_templatePost (d : Destination) (recipient : String) (t : Template) :
    (d.templatePost recipient t).get? "blocks" = some t.blockValues :=
  Members.get?_put_self "blocks" t.blockValues _

/-- The post of a few buttons offers them all. -/
lemma offersButtons_templatePost (d : Destination) (recipient text : String)
    (buttons : List Button) :
    OffersButtons (d.templatePost recipient (.ofButtons text buttons)) buttons
      (postedElements buttons) := by
  unfold postedElements
  refine ⟨⟨_, _, get?_blocks_templatePost d recipient _, ?_⟩, ?_, ⟨_, nodup_ids 0 buttons, ?_⟩⟩
  · rw [List.map_map]
    rfl
  · rw [List.forall₂_map_right_iff]
    refine (buttonElements_values 0 buttons).imp fun b e he => ?_
    rw [← he.1]
    rfl
  · rw [List.map_map, List.map_map]
    rfl

/-! ### A press -/

section Press

variable {members : List (String × Tree)}

lemma decodeSingle_objectTree {name : String} (hkeys : (members.map Prod.fst).Nodup)
    {s : Option String} (h : HoldsText members name s) :
    decodeSingle name (objectTree members) = some s := by
  obtain ⟨r, hread, hshows⟩ := exists_shows [name] hkeys
  unfold decodeSingle
  rw [hread]
  exact optional_of_holdsText hshows (List.mem_singleton_self name) h

lemma decodeMessage_objectTree (hkeys : (members.map Prod.fst).Nodup) {ts threadTs : Option String}
    (hts : HoldsText members "ts" ts) (hthread : HoldsText members "thread_ts" threadTs) :
    MessageRef.decode (objectTree members) = some ⟨ts, threadTs⟩ := by
  obtain ⟨r, hread, hshows⟩ := exists_shows ["ts", "thread_ts"] hkeys
  unfold MessageRef.decode
  rw [hread]
  simp only [Option.bind_eq_bind, Option.bind_some,
    optional_of_holdsText hshows (by decide) hts, optional_of_holdsText hshows (by decide) hthread,
    Option.pure_def]

/-- The element for a button is read as a button with its value. -/
lemma decodeAction_objectTree {e : ButtonElement} {payload : String}
    (hpayload : e.value = some payload)
    (hperm : members.Perm ((elementMembers e).map fun m => (m.1, valueTree m.2))) :
    ∃ a, Action.decode (objectTree members) = some a ∧ a.kind = "button" ∧
      a.value = some payload := by
  have helement : (elementMembers e).map (fun m => (m.1, valueTree m.2)) =
      [("type", .string (some "button")), ("action_id", .string (some e.actionId)),
        ("text", valueTree (TextObject.plain e.label).value),
        ("value", .string (some payload))] := by
    unfold elementMembers
    rw [hpayload]
    rfl
  rw [helement] at hperm
  have hnodup : ["type", "action_id", "text", "value"].Nodup := by decide
  have hkeys : (members.map Prod.fst).Nodup := (hperm.map Prod.fst).nodup_iff.mpr hnodup
  have hlookup := lookup_eq_of_perm hperm hkeys
  obtain ⟨r, hread, hshows⟩ := exists_shows Action.fieldNames hkeys
  have hid : r.optional "action_id" Decoder.string = some (some e.actionId) :=
    optional_of_holdsText hshows (by decide) (.text (hlookup "action_id"))
  have hvalue : r.optional "value" Decoder.string = some (some payload) :=
    optional_of_holdsText hshows (by decide) (.text (hlookup "value"))
  have htype : r.get? "type" = some (.string (some "button")) :=
    (hshows "type" (by decide)).trans (hlookup "type")
  have habsent : ∀ name ∈ Action.fieldNames, name ∉ ["type", "action_id", "text", "value"] →
      r.get? name = none := by
    intro name hname hother
    rw [hshows name hname, hlookup name, List.lookup_eq_none_iff]
    intro m hm
    rw [bne_iff_ne]
    rintro rfl
    exact hother (List.mem_map_of_mem (f := Prod.fst) hm)
  have hmissing : ∀ name ∈ Action.fieldNames, name ∉ ["type", "action_id", "text", "value"] →
      ∀ {α : Type} (decode : Decoder α), r.optional name decode = some none := by
    intro name hname hother α decode
    unfold Record.optional Record.withDefault
    rw [habsent name hname hother]
  refine ⟨⟨"button", some e.actionId, some payload, none, none, [], none, none, none, none⟩, ?_,
    rfl, rfl⟩
  unfold Action.decode
  simp only [hread, Option.bind_eq_bind, Option.bind_some, Record.withDefault, htype, hid, hvalue,
    Decoder.string, habsent "selected_options" (by decide) (by decide),
    hmissing "url" (by decide) (by decide), hmissing "selected_option" (by decide) (by decide),
    hmissing "selected_conversation" (by decide) (by decide),
    hmissing "selected_user" (by decide) (by decide),
    hmissing "selected_channel" (by decide) (by decide),
    hmissing "selected_date" (by decide) (by decide), Option.pure_def]

/-- The id in an object that a field holds. -/
lemma exists_optional_single {names : List String} {r : Record} (hshows : Shows r members names)
    {name key : String} (hname : name ∈ names) {inner : List (String × Tree)} {s : Option String}
    (hinner : HoldsObject members name inner) (hs : HoldsText inner key s) :
    ∃ o, r.optional name (decodeSingle key) = some o ∧ o.join = s := by
  rcases optional_of_holdsObject hshows hname hinner
    (fun hkeys => decodeSingle_objectTree hkeys hs) with hsome | ⟨hnone, rfl⟩
  · exact ⟨_, hsome, rfl⟩
  · exact ⟨_, hnone, (eq_none_of_holdsText_nil hs).symm⟩

lemma exists_optional_message {names : List String} {r : Record} (hshows : Shows r members names)
    (hname : "message" ∈ names) {inner : List (String × Tree)} {ts threadTs : Option String}
    (hinner : HoldsObject members "message" inner) (hts : HoldsText inner "ts" ts)
    (hthread : HoldsText inner "thread_ts" threadTs) :
    ∃ o, r.optional "message" MessageRef.decode = some o ∧
      (o.bind fun m => m.threadTs <|> m.ts) = threadTs.or ts := by
  rcases optional_of_holdsObject hshows hname hinner
    (fun hkeys => decodeMessage_objectTree hkeys hts hthread) with hsome | ⟨hnone, rfl⟩
  · refine ⟨_, hsome, ?_⟩
    rw [Option.bind_some, Option.orElse_eq_orElse, Option.orElse_eq_or]
  · refine ⟨_, hnone, ?_⟩
    rw [eq_none_of_holdsText_nil hts, eq_none_of_holdsText_nil hthread]
    rfl

lemma decode_isPress {e : ButtonElement} {payload user : String} {channel thread : Option String}
    (hpayload : e.value = some payload)
    (h : IsPress (elementMembers e) user channel thread members) :
    ∃ p, InteractionPayload.decode (objectTree members) = some p ∧
      (∃ a, p.firstAction? = some a ∧ a.kind = "button" ∧ a.value = some payload) ∧
      p.user.join = some user ∧ p.channel.join = channel ∧
      (p.message.bind fun m => m.threadTs <|> m.ts) = thread := by
  obtain ⟨kind, hkind⟩ := h.kind
  obtain ⟨_, huser, hid⟩ := h.user
  obtain ⟨_, hchannel, hchannelId⟩ := h.channel
  obtain ⟨_, ts, threadTs, hmessage, hts, hthread, hthreadEq⟩ := h.message
  obtain ⟨action, others, more, hactions, hperm, hothers⟩ := h.actions
  obtain ⟨r, hread, hshows⟩ := exists_shows InteractionPayload.fieldNames h.keys
  obtain ⟨u, hu, huEq⟩ := exists_optional_single hshows (by decide) huser hid
  obtain ⟨c, hc, hcEq⟩ := exists_optional_single hshows (by decide) hchannel hchannelId
  obtain ⟨m, hm, hmEq⟩ := exists_optional_message hshows (by decide) hmessage hts hthread
  obtain ⟨a, ha, hakind, havalue⟩ := decodeAction_objectTree hpayload hperm
  have hlist : r.withDefault "actions" [] (.list Action.decode) = some (a :: more) := by
    have hget : r.get? "actions" = some (.array (objectTree action :: others)) :=
      (hshows "actions" (by decide)).trans hactions
    unfold Record.withDefault
    rw [hget]
    exact (mapM_eq_some_iff _ _ _).mpr (.cons ha hothers)
  refine ⟨⟨kind, u, c, m, a :: more⟩, ?_, ⟨a, rfl, hakind, havalue⟩, huEq, hcEq, ?_⟩
  · unfold InteractionPayload.decode
    simp only [hread, Option.bind_eq_bind, Option.bind_some,
      optional_of_holdsText hshows (by decide) hkind, hu, hc, hm, hlist, Option.pure_def]
  · rw [hthreadEq]
    exact hmEq

lemma readInteraction_of_button (i : Inbox) {p : InteractionPayload} {a : Action} {b : Button}
    {user : String} {channel thread : Option String} (ha : p.firstAction? = some a)
    (hkind : a.kind = "button") (hvalue : a.value = some b.payload)
    (huser : p.user.join = some user) (hne : user ≠ "") (hchannel : p.channel.join = channel)
    (hthread : (p.message.bind fun m => m.threadTs <|> m.ts) = thread) :
    PressMeans i b user channel thread (i.readInteraction p).result := by
  have hsupported : p.supportedAction? = some (.button, a) := by
    unfold InteractionPayload.supportedAction?
    simp only [ha, Option.bind_eq_bind, Option.bind_some, hkind]
    rfl
  have hchoice : a.choice? .button = present? (some b.payload) := by
    unfold Action.choice?
    rw [hvalue]
  have hsender : p.sender? = some user := by
    unfold InteractionPayload.sender?
    rw [huser]
    exact Option.filter_some_pos (decide_eq_true hne)
  have hmetadata : p.metadata = ⟨channel, thread, [user]⟩ := by
    unfold InteractionPayload.metadata
    rw [hchannel, hthread, hsender]
    rfl
  unfold Inbox.readInteraction
  simp only [hsupported, hchoice, hsender]
  by_cases hempty : b.payload = ""
  · have hnone : present? (some b.payload) = none := by
      rw [present?_eq_none_iff]
      rintro text ⟨⟩
      exact hempty
    rw [hnone]
    exact .link hempty rfl
  · have hsome : present? (some b.payload) = some b.payload :=
      Option.filter_some_pos (decide_eq_true hempty)
    rw [hsome, hmetadata]
    exact .message hempty

lemma classify_of_carries (i : Inbox) {contentType : String} {body : Bytes}
    {p : InteractionPayload} (h : Carries contentType body members)
    (hp : InteractionPayload.decode (objectTree members) = some p) :
    i.classify (some contentType) body = i.readInteraction p := by
  obtain @⟨fields, document, htype, hform, hfield, hdocument⟩ := h
  have hvalue : Form.value? "payload" body = some document := by
    unfold Form.value?
    rw [fields_of_encodesForm hform, hfield]
  have hread : InteractionPayload.read? (Text.utf8 document) = some p := by
    unfold InteractionPayload.read?
    rw [read?_of_spells hdocument, Option.bind_some, hp]
  rw [htype.classify_form]
  unfold Inbox.readForm
  simp only [hvalue, hread]

end Press

/-- A few buttons are posted in one message, and whoever presses one of them is understood to say
its payload. -/
theorem buttons_round_trip (d : Destination) (recipient text : String) (buttons : List Button)
    (hfew : buttons.length ≤ 5) :
    ∃ p, OffersButtons p buttons (postedElements buttons) ∧
      (∀ {σ : Type} (post : σ → Post → Called σ Posted) (s : σ × List Post),
        (d.send (recordingPost post) s ⟨recipient, .buttons text buttons⟩).state.2 = s.2 ++ [p]) ∧
      List.Forall₂ (fun b element => ∀ (i : Inbox) {contentType : String} {body : Bytes}
        {user : String} {channel thread : Option String} {members : List (String × Tree)},
        user ≠ "" → IsPress element user channel thread members →
        Carries contentType body members →
        PressMeans i b user channel thread (i.classify (some contentType) body).result)
        buttons (postedElements buttons) := by
  refine ⟨_, offersButtons_templatePost d recipient text buttons, fun {σ} post s => ?_, ?_⟩
  · have hposts : d.posts recipient (.buttons text buttons) =
        .ok [d.templatePost recipient (.ofButtons text buttons)] :=
      if_neg (Nat.not_lt.mpr hfew)
    unfold Destination.send
    simp only [hposts, runAll_singleton]
    exact recorded_sendPost d post s _
  · unfold postedElements
    rw [List.forall₂_map_right_iff]
    refine (buttonElements_values 0 buttons).imp fun b e he i {_ body user channel thread members}
      hne hpress hcarries => ?_
    obtain ⟨p, hp, ⟨a, ha, hkind, hvalue⟩, huser, hchannel, hthread⟩ := decode_isPress he.2 hpress
    rw [classify_of_carries i hcarries hp]
    exact readInteraction_of_button i ha hkind hvalue huser hne hchannel hthread

/-- A document in which a user presses an element of a message in a thread. -/
def pressDocument (element : Members) : Members :=
  [("type", .string "block_actions"), ("user", .object [("id", .string "U1")]),
    ("channel", .object [("id", .string "C1")]),
    ("message", .object [("thread_ts", .string "1.5")]), ("actions", .array [.object element])]

def pressBody (element : Members) : Bytes :=
  Text.utf8 (Form.encode [("payload", (Value.object (pressDocument element)).compact)])

lemma objectTree_map (members : Members) :
    objectTree (members.map fun m => (m.1, valueTree m.2)) = valueTree (.object members) := by
  unfold objectTree
  rw [List.map_map, valueTree, valueMembers_eq_map]
  rfl

lemma isPress_pressDocument (element : Members) :
    IsPress element "U1" (some "C1") (some "1.5")
      ((pressDocument element).map fun m => (m.1, valueTree m.2)) := by
  have hkeys : ["type", "user", "channel", "message", "actions"].Nodup := by decide
  have hactions : ((pressDocument element).map fun m => (m.1, valueTree m.2)).lookup "actions" =
      some (.array [objectTree (element.map fun m => (m.1, valueTree m.2))]) := by
    rw [objectTree_map]
    rfl
  exact {
    keys := hkeys
    kind := ⟨_, .text rfl⟩
    user := ⟨[("id", .string (some "U1"))], .object rfl (by decide), .text rfl⟩
    channel := ⟨[("id", .string (some "C1"))], .object rfl (by decide), .text rfl⟩
    message := ⟨[("thread_ts", .string (some "1.5"))], none, _, .object rfl (by decide),
      .absent rfl, .text rfl, rfl⟩
    actions := ⟨_, [], [], hactions, .refl _, .nil⟩ }

lemma carries_pressBody {element : Members}
    (hn : ∀ n ∈ numbers (.object (pressDocument element)), IsLegible n) :
    Carries "application/x-www-form-urlencoded" (pressBody element)
      ((pressDocument element).map fun m => (m.1, valueTree m.2)) := by
  have htype : HasType "application/x-www-form-urlencoded" "application/x-www-form-urlencoded" :=
    .mk (String.append_empty).symm (by decide) (.inl rfl) (by decide +kernel)
  refine .mk htype (encodesForm_encode _ []) rfl ?_
  rw [objectTree_map]
  exact spells_bytes hn

/-- A payload of characters that mean something in a document or in a form. -/
def trickyPayload : String :=
  "/remind \x7b\"in\": \"50%\"\x7d & a=b+c é\n"

def twoButtons : List Button :=
  [⟨"Later", trickyPayload⟩, ⟨"Docs", ""⟩]

lemma postedElements_twoButtons : postedElements twoButtons =
    [elementMembers ⟨"parley.button.0", "Later", some trickyPayload⟩,
      elementMembers ⟨"parley.button.1", "Docs", some ""⟩] := by
  have helements : Template.buttonElements 0 twoButtons =
      [⟨"parley.button.0", "Later", some trickyPayload⟩, ⟨"parley.button.1", "Docs", some ""⟩] := by
    decide
  unfold postedElements
  rw [helements]
  rfl

theorem buttons_round_trip_of_two :
    twoButtons.length ≤ 5 ∧ ∃ later docs, postedElements twoButtons = [later, docs] ∧
      (channelInbox.classify (some "application/x-www-form-urlencoded") (pressBody later)).result =
        .ok (.message {
          text := trickyPayload
          sender := "U1_C1_1.5"
          inputChannel := "slack"
          metadata := ⟨some "C1", some "1.5", ["U1"]⟩ }) ∧
      (channelInbox.classify (some "application/x-www-form-urlencoded") (pressBody docs)).result =
        .ok (.ignored .linkButton) := by
  have hfew : twoButtons.length ≤ 5 := by decide
  obtain ⟨_, _, _, hpress⟩ := buttons_round_trip ⟨none, none⟩ "U1" "When?" twoButtons hfew
  rw [postedElements_twoButtons] at hpress ⊢
  obtain _ | ⟨hlater, _ | ⟨hdocs, _⟩⟩ := hpress
  refine ⟨hfew, _, _, rfl, ?_, ?_⟩
  · have hmeans := hlater channelInbox (by decide) (isPress_pressDocument _)
      (carries_pressBody fun n hn => nomatch hn)
    generalize (channelInbox.classify _ _).result = result at hmeans ⊢
    cases hmeans with
    | message => rfl
    | link hempty => exact absurd hempty (by decide)
  · have hmeans := hdocs channelInbox (by decide) (isPress_pressDocument _)
      (carries_pressBody fun n hn => nomatch hn)
    generalize (channelInbox.classify _ _).result = result at hmeans ⊢
    cases hmeans with
    | message hne => exact absurd rfl hne
    | @link reason _ hreason =>
      cases reason with
      | linkButton => rfl
      | _ => exact absurd hreason (by decide)

end SlackBridge.Proofs
