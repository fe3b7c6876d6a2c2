import SlackBridge.Form
import SlackBridge.Log
import SlackBridge.Slack.Event
import SlackBridge.Slack.Interaction
import SlackBridge.Slack.Mention
import SlackBridge.Slack.Redelivery
import SlackBridge.Slack.Signature

/-!
The inbox: what a signed request means, and where its answer goes.

A request is a handshake, a message for the bot, or nothing to act on. The type of its content
decides how it is read; the fields that matter then decide which of the three it is.
-/

namespace SlackBridge.Slack

open Dialogue

/-- The name under which messages from here are known. -/
def channelName : String := "slack"

/-- Where the app sends its requests. -/
def webhookPath : String := "/webhooks/slack/webhook"

def statusPath : String := "/webhooks/slack/"

/-- Why there is nothing to act on. -/
inductive IgnoreReason
  | botMessage
  | unsupportedChannel
  | linkButton
deriving DecidableEq, Repr

def IgnoreReason.text : IgnoreReason → String
  | .botMessage => "Bot message delivered."
  | .unsupportedChannel => "Channel not supported."
  | .linkButton => "User clicked link button."

/-- What a request means. -/
inductive Delivery
  | challenge (text : String)
  | message (m : Message)
  | ignored (reason : IgnoreReason)
deriving DecidableEq, Repr

/-- Why a request cannot be understood. -/
inductive Unprocessable
  | malformedJson
  | missingPayload
  | unsupportedAction (kind : String)
  | missingSender
  | emptySelection (kind : String)
deriving DecidableEq, Repr

def Unprocessable.message : Unprocessable → String
  | .malformedJson => "request body is not valid JSON: not the expected document"
  | .missingPayload => "form body has no `payload` field"
  | .unsupportedAction kind =>
    "interactive payload has no supported action (got `" ++ kind ++ "`)"
  | .missingSender => "interactive payload has no user id"
  | .emptySelection kind => "`" ++ kind ++ "` action carried no selected value"

/-- The channel and the thread that an answer goes to. Without a channel it goes to its
recipient. -/
structure Destination where
  channel : Option String
  thread : Option String
deriving DecidableEq, Repr

/-- How requests are checked, which messages are heard, and how conversations are divided. -/
structure Inbox where
  channel : Option String
  useThreads : Bool
  granularity : Granularity
  verifier : Verifier
  redeliveries : RedeliveryFilter
deriving Repr

/-- What was made of a request, with the events that it logged. -/
structure Reading where
  result : Except Unprocessable Delivery
  log : List Log.Event

namespace Reading

def ok (d : Delivery) : Reading := ⟨.ok d, []⟩

def error (e : Unprocessable) : Reading := ⟨.error e, []⟩

end Reading

/-- The type of a content without its parameters, in lower case. -/
def essence (contentType : String) : String :=
  Text.lowerAscii (Text.trim (String.ofList (contentType.toList.takeWhile (· != ';'))))

namespace Inbox

/-- Where an answer goes: to the channel that is given, or else to the configured one, and in the
thread if threads are in use. -/
def destination (i : Inbox) (channel thread : Option String) : Destination :=
  ⟨channel <|> i.channel, if i.useThreads then thread else none⟩

/-- Where the answers to a message go. -/
def destinationFor (i : Inbox) (m : Metadata) : Destination :=
  i.destination m.outChannel m.threadId

/-- The message of a user, under the key of its conversation. -/
def message (i : Inbox) (user text : String) (m : Metadata) : Message where
  text := text
  sender := conversationKey i.granularity user m.outChannel m.threadId
  inputChannel := channelName
  metadata := m

/-- The meaning of an event that is no handshake. -/
def readEvent (i : Inbox) (p : EventPayload) : Reading :=
  match p.userMessage? with
  | none => .ok (.ignored .botMessage)
  | some e =>
    if !e.isHeard i.channel then
      ⟨.ok (.ignored .unsupportedChannel), [.channelIgnored (e.channel.getD "")]⟩
    else match present? e.user with
      | none => .ok (.ignored .botMessage)
      | some user =>
        let text := sanitize p.botUsers (e.text.getD "")
        .ok (.message (i.message user text p.metadata))

/-- The meaning of an event payload. -/
def readEventPayload (i : Inbox) (p : EventPayload) : Reading :=
  match p.challenge with
  | some text => .ok (.challenge text)
  | none => i.readEvent p

/-- The meaning of an interaction. -/
def readInteraction (i : Inbox) (p : InteractionPayload) : Reading :=
  match p.supportedAction? with
  | none =>
    let kind := (p.firstAction?.map (·.kind)).getD ""
    ⟨.error (.unsupportedAction kind), [.actionRefused kind]⟩
  | some (kind, action) =>
    match action.choice? kind, p.sender? with
    | none, _ =>
      if kind = .button then .ok (.ignored .linkButton) else .error (.emptySelection action.kind)
    | some _, none => .error .missingSender
    | some text, some user => .ok (.message (i.message user text p.metadata))

/-- The meaning of a form body, whose field `payload` holds an interaction. -/
def readForm (i : Inbox) (body : Bytes) : Reading :=
  match Form.value? "payload" body with
  | none => .error .missingPayload
  | some payload =>
    match InteractionPayload.read? (Text.utf8 payload) with
    | none => .error .malformedJson
    | some p => i.readInteraction p

/-- The meaning of a request with the given type of content. -/
def classify (i : Inbox) (contentType : Option String) (body : Bytes) : Reading :=
  match (contentType.map essence).getD "" with
  | "application/json" =>
    match EventPayload.read? body with
    | none => .error .malformedJson
    | some p => i.readEventPayload p
  | "application/x-www-form-urlencoded" => i.readForm body
  | other => ⟨.ok (.ignored .botMessage), [.contentTypeIgnored other]⟩

end Inbox
end SlackBridge.Slack
