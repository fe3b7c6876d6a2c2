import SlackBridge.Dialogue.Conversation
import SlackBridge.Dialogue.Message

/-!
Interactions: what users pick in the buttons and menus of a message.
-/

namespace SlackBridge.Slack

open Json Dialogue

/-- The kinds of control whose choice counts as a message. -/
inductive ActionKind
  | button
  | select
  | staticSelect
  | externalSelect
  | conversationsSelect
  | usersSelect
  | channelsSelect
  | overflow
  | datepicker
deriving DecidableEq, Repr

namespace ActionKind

def name : ActionKind → String
  | .button => "button"
  | .select => "select"
  | .staticSelect => "static_select"
  | .externalSelect => "external_select"
  | .conversationsSelect => "conversations_select"
  | .usersSelect => "users_select"
  | .channelsSelect => "channels_select"
  | .overflow => "overflow"
  | .datepicker => "datepicker"

def all : List ActionKind :=
  [.button, .select, .staticSelect, .externalSelect, .conversationsSelect, .usersSelect,
    .channelsSelect, .overflow, .datepicker]

def ofName? (s : String) : Option ActionKind :=
  all.find? (·.name == s)

theorem ofName?_name (k : ActionKind) : ofName? k.name = some k := by
  cases k <;> decide

end ActionKind

/-- One use of a control. An option is the value that it stands for. -/
structure Action where
  kind : String
  actionId : Option String
  value : Option String
  url : Option String
  selectedOption : Option (Option String)
  selectedOptions : List (Option String)
  selectedConversation : Option String
  selectedUser : Option String
  selectedChannel : Option String
  selectedDate : Option String
deriving DecidableEq, Repr

/-- The message that a control belongs to. -/
structure MessageRef where
  ts : Option String
  threadTs : Option String
deriving DecidableEq, Repr

/-- A payload of the interactivity endpoint. A user and a channel are given by their ids. -/
structure InteractionPayload where
  kind : Option String
  user : Option (Option String)
  channel : Option (Option String)
  message : Option MessageRef
  actions : List Action
deriving DecidableEq, Repr

/-- Reads a record of one optional text. -/
def decodeSingle (name : String) : Decoder (Option String) := fun t => do
  let r ← Record.read? [name] t
  r.optional name Decoder.string

namespace Action

def fieldNames : List String :=
  ["type", "action_id", "value", "url", "selected_option", "selected_options",
    "selected_conversation", "selected_user", "selected_channel", "selected_date"]

def decode : Decoder Action := fun t => do
  let r ← Record.read? fieldNames t
  let text (name : String) : Option (Option String) := r.optional name Decoder.string
  return {
    kind := ← r.withDefault "type" "" Decoder.string
    actionId := ← text "action_id"
    value := ← text "value"
    url := ← text "url"
    selectedOption := ← r.optional "selected_option" (decodeSingle "value")
    selectedOptions := ← r.withDefault "selected_options" [] (.list (decodeSingle "value"))
    selectedConversation := ← text "selected_conversation"
    selectedUser := ← text "selected_user"
    selectedChannel := ← text "selected_channel"
    selectedDate := ← text "selected_date" }

/-- What the user picked, read as the given kind of control; nothing if it is empty. -/
def choice? (a : Action) (kind : ActionKind) : Option String :=
  present? <| match kind with
    | .button => a.value
    | .select => a.selectedOptions.head?.join
    | .staticSelect | .externalSelect | .overflow => a.selectedOption.join
    | .conversationsSelect => a.selectedConversation
    | .usersSelect => a.selectedUser
    | .channelsSelect => a.selectedChannel
    | .datepicker => a.selectedDate

end Action

def MessageRef.decode : Decoder MessageRef := fun t => do
  let r ← Record.read? ["ts", "thread_ts"] t
  return ⟨← r.optional "ts" Decoder.string, ← r.optional "thread_ts" Decoder.string⟩

namespace InteractionPayload

def fieldNames : List String := ["type", "user", "channel", "message", "actions"]

def decode : Decoder InteractionPayload := fun t => do
  let r ← Record.read? fieldNames t
  return {
    kind := ← r.optional "type" Decoder.string
    user := ← r.optional "user" (decodeSingle "id")
    channel := ← r.optional "channel" (decodeSingle "id")
    message := ← r.optional "message" MessageRef.decode
    actions := ← r.withDefault "actions" [] (.list Action.decode) }

/-- Reads a payload from its document. -/
def read? (body : Bytes) : Option InteractionPayload :=
  (Tree.read? body).bind decode

def firstAction? (p : InteractionPayload) : Option Action :=
  p.actions.head?

/-- The first action with its kind, if that is one of the known kinds. -/
def supportedAction? (p : InteractionPayload) : Option (ActionKind × Action) := do
  let action ← p.firstAction?
  return (← ActionKind.ofName? action.kind, action)

/-- The id of the user, unless it is empty. -/
def sender? (p : InteractionPayload) : Option String :=
  present? p.user.join

def metadata (p : InteractionPayload) : Metadata where
  outChannel := p.channel.join
  threadId := p.message.bind fun m => m.threadTs <|> m.ts
  users := p.sender?.toList

end InteractionPayload
end SlackBridge.Slack
