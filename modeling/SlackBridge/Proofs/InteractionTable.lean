import SlackBridge.Proofs.DocumentFields
import SlackBridge.Proofs.EventTable

/-!
# The table of interactions

What a form means to an inbox. Of the form only the first field named `payload` counts, and of the
document in it what the first action is, the one field that its kind reads, the ids of the user and
the channel, and the thread of the message. `Settles` is the table over these facts.
-/

namespace SlackBridge.Proofs

open Json Dialogue Slack

/-- What counts of an interaction. `picked` is the text that the control holds, and missing if the
control is not one whose choice is a message. -/
structure Press where
  control : String
  picked : Option (Option String)
  user : Option String
  channel : Option String
  threadTs : Option String
  ts : Option String

/-- The text that an action holds in the field that its kind of control reads. -/
def pickedIn? (action : Tree) : String → Option (Option String)
  | "button" => some (textIn? Action.fieldNames "value" action)
  | "select" =>
    let options := fieldIn? Action.fieldNames "selected_options" action
    some ((options.bind firstItem?).bind (textIn? ["value"] "value"))
  | "static_select" | "external_select" | "overflow" =>
    let option := fieldIn? Action.fieldNames "selected_option" action
    some (option.bind (textIn? ["value"] "value"))
  | "conversations_select" => some (textIn? Action.fieldNames "selected_conversation" action)
  | "users_select" => some (textIn? Action.fieldNames "selected_user" action)
  | "channels_select" => some (textIn? Action.fieldNames "selected_channel" action)
  | "datepicker" => some (textIn? Action.fieldNames "selected_date" action)
  | _ => none

/-- What counts of a document. -/
def pressOf (t : Tree) : Press :=
  let field := fun name => fieldIn? InteractionPayload.fieldNames name t
  let action := (field "actions").bind firstItem?
  let control := (action.bind (textIn? Action.fieldNames "type")).getD ""
  { control := control
    picked := action.bind fun a => pickedIn? a control
    user := (field "user").bind (textIn? ["id"] "id")
    channel := (field "channel").bind (textIn? ["id"] "id")
    threadTs := (field "message").bind (textIn? ["ts", "thread_ts"] "thread_ts")
    ts := (field "message").bind (textIn? ["ts", "thread_ts"] "ts") }

/-- What counts of a form. -/
inductive Submission
  | nothing
  | garbled
  | press (s : Press)

/-- The first field named `payload` holds the value. -/
def FirstPayload (fields : List (String × String)) (value : String) : Prop :=
  ∃ before after, fields = before ++ ("payload", value) :: after ∧ ∀ v, ("payload", v) ∉ before

inductive Submits (fields : List (String × String)) : Submission → Prop
  | nothing (h : ∀ value, ("payload", value) ∉ fields) : Submits fields .nothing
  | garbled {value : String} (hvalue : FirstPayload fields value)
      (hread : InteractionPayload.read? (Text.utf8 value) = none) : Submits fields .garbled
  | press {value : String} {t : Tree} {p : InteractionPayload} (hvalue : FirstPayload fields value)
      (hread : Tree.read? (Text.utf8 value) = some t)
      (hdecode : InteractionPayload.decode t = some p) : Submits fields (.press (pressOf t))

/-- What a form means. -/
inductive Settles (i : Inbox) : Submission → Except Unprocessable Delivery → Prop
  | nothing : Settles i .nothing (.error .missingPayload)
  | garbled : Settles i .garbled (.error .malformedJson)
  | unsupported {s : Press} (hpicked : s.picked = none) :
      Settles i (.press s) (.error (.unsupportedAction s.control))
  | link {s : Press} {picked : Option String} {reason : IgnoreReason}
      (hpicked : s.picked = some picked) (hempty : ∀ text, picked = some text → text = "")
      (hbutton : s.control = "button") (hreason : reason.text = "User clicked link button.") :
      Settles i (.press s) (.ok (.ignored reason))
  | empty {s : Press} {picked : Option String} (hpicked : s.picked = some picked)
      (hempty : ∀ text, picked = some text → text = "") (hother : s.control ≠ "button") :
      Settles i (.press s) (.error (.emptySelection s.control))
  | nobody {s : Press} {text : String} (hpicked : s.picked = some (some text)) (hne : text ≠ "")
      (huser : ∀ user, s.user = some user → user = "") :
      Settles i (.press s) (.error .missingSender)
  | message {s : Press} {text user : String} (hpicked : s.picked = some (some text))
      (hne : text ≠ "") (huser : s.user = some user) (hneUser : user ≠ "") :
      Settles i (.press s) (.ok (.message {
        text := text
        sender := conversationKey i.granularity user s.channel (s.threadTs.or s.ts)
        inputChannel := "slack"
        metadata := ⟨s.channel, s.threadTs.or s.ts, [user]⟩ }))

/-! ### What is decoded of a document -/

section Decode

variable {t : Tree} {r : Record} {names : List String} {name key : String}

lemma decodeSingle_eq {v : Option String} (h : decodeSingle key t = some v) :
    v = textIn? [key] key t := by
  unfold decodeSingle at h
  obtain ⟨r, hr, hv⟩ := Option.bind_eq_some_iff.mp h
  exact eq_textIn? hr List.mem_cons_self hv

lemma join_optional_single (hr : Record.read? names t = some r) (hname : name ∈ names)
    {v : Option (Option String)} (h : r.optional name (decodeSingle key) = some v) :
    v.join = (fieldIn? names name t).bind (textIn? [key] key) := by
  have hbind : v.bind id = (fieldIn? names name t).bind (textIn? [key] key) :=
    bind_optional hr hname (fun _ _ => decodeSingle_eq) rfl h
  exact hbind

lemma join_rel_single {first : Option Tree} {v : Option (Option String)}
    (h : Option.Rel (fun t a => decodeSingle key t = some a) first v) :
    v.join = first.bind (textIn? [key] key) := by
  cases h with
  | none => rfl
  | some h => exact decodeSingle_eq h

lemma decode_messageRef {m : MessageRef} (h : MessageRef.decode t = some m) :
    m.ts = textIn? ["ts", "thread_ts"] "ts" t ∧
      m.threadTs = textIn? ["ts", "thread_ts"] "thread_ts" t := by
  unfold MessageRef.decode at h
  obtain ⟨r, hr, h⟩ := Option.bind_eq_some_iff.mp h
  obtain ⟨ts, hts, h⟩ := Option.bind_eq_some_iff.mp h
  obtain ⟨threadTs, hthread, h⟩ := Option.bind_eq_some_iff.mp h
  cases h
  exact ⟨eq_textIn? hr (by decide) hts, eq_textIn? hr (by decide) hthread⟩

/-- What an action was decoded from. -/
structure DecodedAction (t : Tree) (a : Action) : Prop where
  kind : a.kind = (textIn? Action.fieldNames "type" t).getD ""
  value : a.value = textIn? Action.fieldNames "value" t
  option : a.selectedOption.join =
    (fieldIn? Action.fieldNames "selected_option" t).bind (textIn? ["value"] "value")
  options : a.selectedOptions.head?.join =
    ((fieldIn? Action.fieldNames "selected_options" t).bind firstItem?).bind
      (textIn? ["value"] "value")
  conversation : a.selectedConversation = textIn? Action.fieldNames "selected_conversation" t
  user : a.selectedUser = textIn? Action.fieldNames "selected_user" t
  channel : a.selectedChannel = textIn? Action.fieldNames "selected_channel" t
  date : a.selectedDate = textIn? Action.fieldNames "selected_date" t

lemma decodedAction_of_decode {a : Action} (h : Action.decode t = some a) : DecodedAction t a := by
  unfold Action.decode at h
  obtain ⟨r, hr, h⟩ := Option.bind_eq_some_iff.mp h
  obtain ⟨kind, hkind, h⟩ := Option.bind_eq_some_iff.mp h
  obtain ⟨_, -, h⟩ := Option.bind_eq_some_iff.mp h
  obtain ⟨value, hvalue, h⟩ := Option.bind_eq_some_iff.mp h
  obtain ⟨_, -, h⟩ := Option.bind_eq_some_iff.mp h
  obtain ⟨option, hoption, h⟩ := Option.bind_eq_some_iff.mp h
  obtain ⟨options, hoptions, h⟩ := Option.bind_eq_some_iff.mp h
  obtain ⟨conversation, hconversation, h⟩ := Option.bind_eq_some_iff.mp h
  obtain ⟨user, huser, h⟩ := Option.bind_eq_some_iff.mp h
  obtain ⟨channel, hchannel, h⟩ := Option.bind_eq_some_iff.mp h
  obtain ⟨date, hdate, h⟩ := Option.bind_eq_some_iff.mp h
  cases h
  constructor
  · exact eq_getD_textIn? hr (by decide) hkind
  · exact eq_textIn? hr (by decide) hvalue
  · exact join_optional_single hr (by decide) hoption
  · exact join_rel_single (head?_withDefault hr (by decide) hoptions)
  · exact eq_textIn? hr (by decide) hconversation
  · exact eq_textIn? hr (by decide) huser
  · exact eq_textIn? hr (by decide) hchannel
  · exact eq_textIn? hr (by decide) hdate

lemma pickedIn?_of_name {a : Action} (h : DecodedAction t a) (k : ActionKind) :
    ∃ picked, pickedIn? t k.name = some picked ∧ a.choice? k = present? picked := by
  cases k with
  | button => exact ⟨_, rfl, congrArg present? h.value⟩
  | select => exact ⟨_, rfl, congrArg present? h.options⟩
  | staticSelect => exact ⟨_, rfl, congrArg present? h.option⟩
  | externalSelect => exact ⟨_, rfl, congrArg present? h.option⟩
  | conversationsSelect => exact ⟨_, rfl, congrArg present? h.conversation⟩
  | usersSelect => exact ⟨_, rfl, congrArg present? h.user⟩
  | channelsSelect => exact ⟨_, rfl, congrArg present? h.channel⟩
  | overflow => exact ⟨_, rfl, congrArg present? h.option⟩
  | datepicker => exact ⟨_, rfl, congrArg present? h.date⟩

lemma pickedIn?_of_unknown {control : String} (h : ActionKind.ofName? control = none) :
    pickedIn? t control = none := by
  have hne : ∀ k : ActionKind, control ≠ k.name := by
    rintro k rfl
    rw [ActionKind.ofName?_name] at h
    cases h
  unfold pickedIn?
  split
  · exact absurd rfl (hne .button)
  · exact absurd rfl (hne .select)
  · exact absurd rfl (hne .staticSelect)
  · exact absurd rfl (hne .externalSelect)
  · exact absurd rfl (hne .overflow)
  · exact absurd rfl (hne .conversationsSelect)
  · exact absurd rfl (hne .usersSelect)
  · exact absurd rfl (hne .channelsSelect)
  · exact absurd rfl (hne .datepicker)
  · rfl

lemma eq_name_of_ofName? {control : String} {k : ActionKind}
    (h : ActionKind.ofName? control = some k) : control = k.name := by
  have hfound := List.find?_some h
  exact (beq_iff_eq.mp hfound).symm

/-- What a payload was decoded from. -/
structure DecodedPayload (t : Tree) (p : InteractionPayload) : Prop where
  action : Option.Rel (fun t a => Action.decode t = some a)
    ((fieldIn? InteractionPayload.fieldNames "actions" t).bind firstItem?) p.firstAction?
  user : p.user.join = (pressOf t).user
  channel : p.channel.join = (pressOf t).channel
  thread : (p.message.bind fun m => m.threadTs <|> m.ts) =
    (pressOf t).threadTs.or (pressOf t).ts

lemma decodedPayload_of_decode {p : InteractionPayload}
    (h : InteractionPayload.decode t = some p) : DecodedPayload t p := by
  unfold InteractionPayload.decode at h
  obtain ⟨r, hr, h⟩ := Option.bind_eq_some_iff.mp h
  obtain ⟨_, -, h⟩ := Option.bind_eq_some_iff.mp h
  obtain ⟨user, huser, h⟩ := Option.bind_eq_some_iff.mp h
  obtain ⟨channel, hchannel, h⟩ := Option.bind_eq_some_iff.mp h
  obtain ⟨message, hmessage, h⟩ := Option.bind_eq_some_iff.mp h
  obtain ⟨actions, hactions, h⟩ := Option.bind_eq_some_iff.mp h
  cases h
  have hthread : message.bind MessageRef.threadTs = (pressOf t).threadTs :=
    bind_optional hr (by decide) (fun _ _ h => (decode_messageRef h).2) rfl hmessage
  have hts : message.bind MessageRef.ts = (pressOf t).ts :=
    bind_optional hr (by decide) (fun _ _ h => (decode_messageRef h).1) rfl hmessage
  constructor
  · exact head?_withDefault hr (by decide) hactions
  · exact join_optional_single hr (by decide) huser
  · exact join_optional_single hr (by decide) hchannel
  · rw [← hthread, ← hts]
    cases message with
    | none => rfl
    | some m => simp only [Option.bind_some, Option.orElse_eq_orElse, Option.orElse_eq_or]

end Decode

/-! ### Lines of the table -/

section Lines

variable {i : Inbox} {s : Press} {t : Tree}

/-- What is read of an interaction, from what counts of it. -/
def pressReading (i : Inbox) (s : Press) : Reading :=
  match s.picked with
  | none => ⟨.error (.unsupportedAction s.control), [.actionRefused s.control]⟩
  | some picked =>
    match present? picked, present? s.user with
    | none, _ =>
      if s.control = "button" then .ok (.ignored .linkButton)
      else .error (.emptySelection s.control)
    | some _, none => .error .missingSender
    | some text, some user =>
      .ok (.message (i.message user text ⟨s.channel, s.threadTs.or s.ts, [user]⟩))

/-- The control and its choice are those of the first action, if there is one. -/
lemma press_of_decode {p : InteractionPayload} (h : InteractionPayload.decode t = some p) :
    (p.firstAction? = none ∧ (pressOf t).control = "" ∧ (pressOf t).picked = none) ∨
    ∃ a action, p.firstAction? = some a ∧ DecodedAction action a ∧
      (pressOf t).control = a.kind ∧ (pressOf t).picked = pickedIn? action a.kind := by
  have haction := (decodedPayload_of_decode h).action
  unfold pressOf
  dsimp only
  generalize (fieldIn? InteractionPayload.fieldNames "actions" t).bind firstItem? = first
    at haction ⊢
  generalize p.firstAction? = firstAction at haction ⊢
  cases haction with
  | none => exact .inl ⟨rfl, rfl, rfl⟩
  | @some action a hdecode =>
    have ha := decodedAction_of_decode hdecode
    refine .inr ⟨a, action, rfl, ha, ha.kind.symm, ?_⟩
    rw [ha.kind]
    rfl

lemma name_eq_button_iff (k : ActionKind) : k.name = "button" ↔ k = .button := by
  cases k <;> decide

lemma metadata_of_decode {p : InteractionPayload} (h : InteractionPayload.decode t = some p)
    {user : String} (huser : p.sender? = some user) :
    p.metadata = ⟨(pressOf t).channel, (pressOf t).threadTs.or (pressOf t).ts, [user]⟩ := by
  have hp := decodedPayload_of_decode h
  unfold InteractionPayload.metadata
  rw [huser, hp.channel, hp.thread]
  rfl

lemma supportedAction?_of_first {p : InteractionPayload} {a : Action}
    (h : p.firstAction? = some a) :
    p.supportedAction? = (ActionKind.ofName? a.kind).map fun k => (k, a) := by
  unfold InteractionPayload.supportedAction?
  rw [h]
  cases hkind : ActionKind.ofName? a.kind <;> simp [hkind]

/-- An interaction is read from what counts of its document. -/
lemma readInteraction_eq (i : Inbox) {p : InteractionPayload}
    (h : InteractionPayload.decode t = some p) :
    i.readInteraction p = pressReading i (pressOf t) := by
  have hsender : p.sender? = present? (pressOf t).user :=
    congrArg present? (decodedPayload_of_decode h).user
  unfold Inbox.readInteraction pressReading
  rcases press_of_decode h with
    ⟨hfirst, hcontrol, hpicked⟩ | ⟨a, action, hfirst, ha, hcontrol, hpicked⟩
  · have hnone : p.supportedAction? = none := by
      unfold InteractionPayload.supportedAction?
      rw [hfirst]
      rfl
    rw [hnone, hfirst, hcontrol, hpicked]
    rfl
  · rw [supportedAction?_of_first hfirst, hfirst, hcontrol, hpicked, hsender]
    cases hkind : ActionKind.ofName? a.kind with
    | none =>
      rw [pickedIn?_of_unknown hkind]
      rfl
    | some k =>
      obtain ⟨picked, hread, hchoice⟩ := pickedIn?_of_name ha k
      have hname := eq_name_of_ofName? hkind
      simp only [Option.map_some, hname, hread, hchoice, name_eq_button_iff]
      cases present? picked with
      | none => rfl
      | some text =>
        cases huser : present? (pressOf t).user with
        | none => rfl
        | some user =>
          have hmetadata := metadata_of_decode h (hsender.trans huser)
          simp only [hmetadata]

lemma pressReading_of_settles {result : Except Unprocessable Delivery}
    (h : Settles i (.press s) result) : (pressReading i s).result = result := by
  unfold pressReading
  cases h with
  | unsupported hpicked => rw [hpicked]
  | @link _ picked reason hpicked hempty hbutton hreason =>
    simp only [hpicked, (present?_eq_none_iff _).mpr hempty, hbutton, if_true]
    cases reason with
    | linkButton => rfl
    | _ => exact absurd hreason (by decide)
  | empty hpicked hempty hother =>
    simp only [hpicked, (present?_eq_none_iff _).mpr hempty, if_neg hother]
    rfl
  | nobody hpicked hne huser =>
    simp only [hpicked, present?_of_ne hne, (present?_eq_none_iff _).mpr huser]
    rfl
  | message hpicked hne huser hneUser =>
    simp only [hpicked, present?_of_ne hne, huser, present?_of_ne hneUser]
    rfl

lemma exists_settles (i : Inbox) (s : Press) : ∃ result, Settles i (.press s) result := by
  cases hpicked : s.picked with
  | none => exact ⟨_, .unsupported hpicked⟩
  | some picked =>
  by_cases htext : ∃ text, picked = some text ∧ text ≠ ""
  · obtain ⟨text, rfl, hne⟩ := htext
    by_cases huser : ∃ user, s.user = some user ∧ user ≠ ""
    · obtain ⟨user, huser, hneUser⟩ := huser
      exact ⟨_, .message hpicked hne huser hneUser⟩
    · refine ⟨_, .nobody hpicked hne fun user h => ?_⟩
      exact by_contra fun hneUser => huser ⟨user, h, hneUser⟩
  · have hempty : ∀ text, picked = some text → text = "" :=
      fun text h => by_contra fun hne => htext ⟨text, h, hne⟩
    by_cases hbutton : s.control = "button"
    · exact ⟨.ok (.ignored .linkButton), .link hpicked hempty hbutton rfl⟩
    · exact ⟨_, .empty hpicked hempty hbutton⟩

/-- What is read of a form, from what counts of it. -/
def submissionReading (i : Inbox) : Submission → Reading
  | .nothing => .error .missingPayload
  | .garbled => .error .malformedJson
  | .press s => pressReading i s

lemma submissionReading_eq_iff (i : Inbox) (s : Submission)
    (result : Except Unprocessable Delivery) :
    (submissionReading i s).result = result ↔ Settles i s result := by
  cases s with
  | nothing =>
    constructor
    · rintro rfl
      exact .nothing
    · rintro ⟨⟩
      rfl
  | garbled =>
    constructor
    · rintro rfl
      exact .garbled
    · rintro ⟨⟩
      rfl
  | press s =>
    refine ⟨fun h => ?_, pressReading_of_settles⟩
    obtain ⟨other, hother⟩ := exists_settles i s
    have hsame : other = result := (pressReading_of_settles hother).symm.trans h
    exact hsame ▸ hother

end Lines

/-! ### Forms -/

section Forms

variable {i : Inbox} {body : Bytes} {s : Submission}

lemma value?_payload_eq_some_iff (body : Bytes) (value : String) :
    Form.value? "payload" body = some value ↔ FirstPayload (Form.fields body) value := by
  unfold Form.value? FirstPayload
  rw [List.lookup_eq_some_iff]
  constructor
  · rintro ⟨before, after, hfields, hbefore⟩
    refine ⟨before, after, hfields, fun v hmem => ?_⟩
    exact absurd rfl (bne_iff_ne.mp (hbefore _ hmem))
  · rintro ⟨before, after, hfields, hbefore⟩
    refine ⟨before, after, hfields, fun field hmem => ?_⟩
    rw [bne_iff_ne]
    rintro heq
    obtain ⟨name, v⟩ := field
    cases heq
    exact hbefore v hmem

lemma value?_payload_eq_none_iff (body : Bytes) :
    Form.value? "payload" body = none ↔ ∀ value, ("payload", value) ∉ Form.fields body := by
  unfold Form.value?
  rw [List.lookup_eq_none_iff]
  constructor
  · intro h value hmem
    exact absurd rfl (bne_iff_ne.mp (h _ hmem))
  · rintro h ⟨name, v⟩ hmem
    rw [bne_iff_ne]
    rintro heq
    cases heq
    exact h v hmem

lemma readForm_of_submits (h : Submits (Form.fields body) s) :
    i.readForm body = submissionReading i s := by
  unfold Inbox.readForm
  cases h with
  | nothing h =>
    rw [(value?_payload_eq_none_iff body).mpr h]
    rfl
  | garbled hvalue hread =>
    simp only [(value?_payload_eq_some_iff body _).mpr hvalue, hread]
    rfl
  | press hvalue hread hdecode =>
    have hpayload : InteractionPayload.read? (Text.utf8 _) = some _ :=
      Option.bind_eq_some_iff.mpr ⟨_, hread, hdecode⟩
    simp only [(value?_payload_eq_some_iff body _).mpr hvalue, hpayload]
    exact readInteraction_eq i hdecode

lemma exists_submits (body : Bytes) : ∃ s, Submits (Form.fields body) s := by
  cases hvalue : Form.value? "payload" body with
  | none => exact ⟨_, .nothing ((value?_payload_eq_none_iff body).mp hvalue)⟩
  | some value =>
    have hfirst := (value?_payload_eq_some_iff body value).mp hvalue
    cases hread : InteractionPayload.read? (Text.utf8 value) with
    | none => exact ⟨_, .garbled hfirst hread⟩
    | some p =>
      obtain ⟨t, ht, hdecode⟩ := Option.bind_eq_some_iff.mp hread
      exact ⟨_, .press hfirst ht hdecode⟩

/-- Of a form only the submission in it counts: what it means is the line of the table that this
falls under, and all forms with the same submission are read alike. -/
theorem classify_form_iff {contentType : String}
    (htype : HasType contentType "application/x-www-form-urlencoded") (i : Inbox) (body : Bytes) :
    (∃ s, Submits (Form.fields body) s) ∧
    ∀ s, Submits (Form.fields body) s →
      (∀ result, (i.classify (some contentType) body).result = result ↔ Settles i s result) ∧
      ∀ other, Submits (Form.fields other) s →
        i.classify (some contentType) other = i.classify (some contentType) body := by
  refine ⟨exists_submits body, fun s hs => ⟨fun result => ?_, fun other hother => ?_⟩⟩
  · rw [htype.classify_form, readForm_of_submits hs]
    exact submissionReading_eq_iff i s result
  · rw [htype.classify_form, htype.classify_form, readForm_of_submits hs,
      readForm_of_submits hother]

end Forms

/-! ### A choice from a menu -/

/-- A document in which the first action holds a value besides its option, and another action
follows. -/
def menuDocument : String :=
  "\x7b\"user\":\x7b\"id\":\"U1\"\x7d,\"channel\":\x7b\"id\":\"C1\"\x7d," ++
    "\"message\":\x7b\"ts\":\"2.5\"\x7d,\"actions\":[" ++
    "\x7b\"type\":\"static_select\",\"value\":\"no\"," ++
    "\"selected_option\":\x7b\"value\":\"yes\"\x7d\x7d," ++
    "\x7b\"type\":\"button\",\"value\":\"later\"\x7d]\x7d"

def menuTree : Tree :=
  let text := fun s : String => Tree.string (some s)
  let record := fun members : List (String × Tree) => objectTree members
  record [("user", record [("id", text "U1")]), ("channel", record [("id", text "C1")]),
    ("message", record [("ts", text "2.5")]),
    ("actions", .array [
      record [("type", text "static_select"), ("value", text "no"),
        ("selected_option", record [("value", text "yes")])],
      record [("type", text "button"), ("value", text "later")]])]

/-- The form holds other fields before and behind the document. -/
def menuBody : Bytes :=
  Text.utf8 ("token=t&payload=" ++ menuDocument ++ "&payload=1")

set_option maxRecDepth 4000 in
lemma read?_menuDocument : Tree.read? (Text.utf8 menuDocument) = some menuTree := by
  rfl

lemma hasType_form : HasType "application/x-www-form-urlencoded"
    "application/x-www-form-urlencoded" :=
  .mk String.append_empty.symm (by decide) (.inl rfl) (by decide +kernel)

lemma submits_menuBody : Submits (Form.fields menuBody)
    (.press ⟨"static_select", some (some "yes"), some "U1", some "C1", none, some "2.5"⟩) := by
  have hvalue : FirstPayload (Form.fields menuBody) menuDocument := by
    rw [← value?_payload_eq_some_iff]
    decide +kernel
  have hdecode : InteractionPayload.decode menuTree = some _ := rfl
  exact .press hvalue read?_menuDocument hdecode

theorem classify_form_iff_of_menu :
    HasType "application/x-www-form-urlencoded" "application/x-www-form-urlencoded" ∧
    Submits (Form.fields menuBody)
      (.press ⟨"static_select", some (some "yes"), some "U1", some "C1", none, some "2.5"⟩) ∧
    (channelInbox.classify (some "application/x-www-form-urlencoded") menuBody).result =
      .ok (.message ⟨"yes", "U1_C1_2.5", "slack", ⟨some "C1", some "2.5", ["U1"]⟩⟩) := by
  obtain ⟨-, h⟩ := classify_form_iff hasType_form channelInbox menuBody
  refine ⟨hasType_form, submits_menuBody, ((h _ submits_menuBody).1 _).mpr ?_⟩
  exact .message rfl (by decide : "yes" ≠ "") rfl (by decide : "U1" ≠ "")

end SlackBridge.Proofs
