import SlackBridge.Dialogue.Message
import SlackBridge.Text.Blank

/-!
Events: what the Events API posts about messages, and which of them a person wrote.
-/

namespace SlackBridge.Slack

open Json

/-- Something that happened in a channel. -/
structure MessageEvent where
  kind : String
  subtype : Option String
  user : Option String
  text : Option String
  channel : Option String
  channelType : Option String
  ts : Option String
  threadTs : Option String
  botId : Option String
deriving DecidableEq, Repr

/-- A payload of the Events API. An authorization is the id of the user it is for. -/
structure EventPayload where
  kind : Option String
  challenge : Option String
  eventId : Option String
  event : Option MessageEvent
  authedUsers : Option (List String)
  authorizations : List (Option String)
deriving DecidableEq, Repr

namespace MessageEvent

def fieldNames : List String :=
  ["type", "subtype", "user", "text", "channel", "channel_type", "ts", "thread_ts", "bot_id"]

def decode : Decoder MessageEvent := fun t => do
  let r ← Record.read? fieldNames t
  let text (name : String) : Option (Option String) := r.optional name Decoder.string
  return {
    kind := ← r.withDefault "type" "" Decoder.string
    subtype := ← text "subtype"
    user := ← text "user"
    text := ← text "text"
    channel := ← text "channel"
    channelType := ← text "channel_type"
    ts := ← text "ts"
    threadTs := ← text "thread_ts"
    botId := ← text "bot_id" }

/-- The kinds of event that carry a message. -/
def messageKinds : List String := ["message", "app_mention"]

/-- The subtypes of messages that a person wrote. -/
def humanSubtypes : List String := ["thread_broadcast", "file_share"]

/-- Whether a person wrote the message, not a bot or the system. -/
def isUserMessage (e : MessageEvent) : Bool :=
  messageKinds.contains e.kind && e.text.any (!Text.isBlankText ·) && e.botId.isNone &&
    e.subtype.all humanSubtypes.contains

def isAppMention (e : MessageEvent) : Bool :=
  e.kind == "app_mention"

def isDirectMessage (e : MessageEvent) : Bool :=
  e.channelType == some "im"

/-- The thread of the message: the one it replies in, or else the one that it starts. -/
def threadId (e : MessageEvent) : Option String :=
  e.threadTs <|> e.ts

/-- Whether the bot listens to the message: it is addressed to it, or in the given channel. -/
def isHeard (e : MessageEvent) (listening : Option String) : Bool :=
  e.isDirectMessage || e.isAppMention || listening.any fun c => e.channel == some c

end MessageEvent

namespace EventPayload

def decodeAuthorization : Decoder (Option String) := fun t => do
  let r ← Record.read? ["user_id"] t
  r.optional "user_id" Decoder.string

def fieldNames : List String :=
  ["type", "challenge", "event_id", "event", "authed_users", "authorizations"]

def decode : Decoder EventPayload := fun t => do
  let r ← Record.read? fieldNames t
  return {
    kind := ← r.optional "type" Decoder.string
    challenge := ← r.optional "challenge" Decoder.string
    eventId := ← r.optional "event_id" Decoder.string
    event := ← r.optional "event" MessageEvent.decode
    authedUsers := ← r.optional "authed_users" (.list .string)
    authorizations := ← r.withDefault "authorizations" [] (.list decodeAuthorization) }

/-- Reads a request body. -/
def read? (body : Bytes) : Option EventPayload :=
  (Tree.read? body).bind decode

def userMessage? (p : EventPayload) : Option MessageEvent :=
  p.event.filter (·.isUserMessage)

/-- The ids under which the bot was addressed. -/
def botUsers (p : EventPayload) : List String :=
  match p.authedUsers with
  | some users => users
  | none => p.authorizations.head?.join.toList

def metadata (p : EventPayload) : Dialogue.Metadata where
  outChannel := p.event.bind (·.channel)
  threadId := p.event.bind (·.threadId)
  users := p.botUsers

end EventPayload
end SlackBridge.Slack
