import SlackBridge.Json.Value

/-!
What the bridge writes to its log.

An event says what happened; `Event.record` gives the level, the name, the text and the fields
under which it is written. Secrets are in no event.
-/

namespace SlackBridge.Log

open Json

inductive Level
  | debug
  | info
  | warn
  | error
deriving DecidableEq, Repr

def Level.name : Level → String
  | .debug => "DEBUG"
  | .info => "INFO"
  | .warn => "WARN"
  | .error => "ERROR"

/-- Why a call of the Web API is made again. -/
inductive RetryCause
  | status (code : Nat)
  | transport (error : String)
deriving DecidableEq, Repr

/-- What becomes of the handlers in flight when the server stops. -/
inductive Stopping
  | draining (inFlight : Nat)
  | abandoned (inFlight : Nat)
deriving DecidableEq, Repr

inductive Event
  | contentTypeIgnored (essence : String)
  | channelIgnored (channel : String)
  | actionRefused (kind : String)
  | callRetried (method : String) (attempt : Nat) (cause : RetryCause) (delay : Nat)
  | messagePosted (channel ts : String)
  | replyPosted (channel thread : String)
  | tooManyButtons (given limit : Nat)
  | botSelected (forwards : Bool)
  | botReplied (conversation : String) (replies : Nat)
  | signatureRejected (request error : String)
  | urlVerified (request : String)
  | redeliveryDropped (request attempt reason : String)
  | unprocessable (request error : String)
  | messageReceived (request conversation channel : String)
  | handlerFailed (request conversation error advice : String)
  | connectorReady (channel : Option String) (useThreads : Bool) (granularity botMode : String)
  | serverStarted (address webhookPath : String)
  | serverStopping (stage : Stopping)
deriving DecidableEq, Repr

/-- One line of the log. -/
structure Record where
  level : Level
  name : String
  message : String
  fields : Members

def RetryCause.message : RetryCause → String
  | .status _ => "slack api call failed, retrying"
  | .transport _ => "slack api transport failed, retrying"

def RetryCause.field : RetryCause → String × Value
  | .status code => ("status", .ofNat code)
  | .transport error => ("error", .string error)

/-- The field that ties an event to a request or a phase of the program. -/
def correlation (id : String) : String × Value :=
  ("correlation_id", .string id)

def Stopping.record : Stopping → Record
  | .draining inFlight =>
    ⟨.info, "system.server.draining_handlers", "waiting for in-flight bot replies",
      [("in_flight", .ofNat inFlight)]⟩
  | .abandoned inFlight =>
    ⟨.warn, "system.server.handlers_abandoned", "bot replies still running at shutdown deadline",
      [("in_flight", .ofNat inFlight)]⟩

def Event.record : Event → Record
  | .contentTypeIgnored essence =>
    ⟨.debug, "slack.inbound.unsupported_content_type",
      "ignoring request with unsupported content type", [("content_type", .string essence)]⟩
  | .channelIgnored channel =>
    ⟨.debug, "slack.inbound.unsupported_channel",
      "ignoring message from channel the bot does not listen to",
      [("channel_id", .string channel)]⟩
  | .actionRefused kind =>
    ⟨.warn, "slack.inbound.unsupported_action",
      "interactive payload is not a supported action", [("action_type", .string kind)]⟩
  | .callRetried method attempt cause delay =>
    ⟨.warn, "slack.api.retry", cause.message,
      [("method", .string method), ("attempt", .ofNat attempt), cause.field,
        ("delay_ms", .ofNat delay)]⟩
  | .messagePosted channel ts =>
    ⟨.debug, "slack.api.message_posted", "posted slack message",
      [("channel", .string channel), ("ts", .string ts)]⟩
  | .replyPosted channel thread =>
    ⟨.debug, "slack.output.posted", "delivered bot reply",
      [("channel_id", .string channel), ("thread_ts", .string thread)]⟩
  | .tooManyButtons given limit =>
    ⟨.warn, "slack.output.too_many_buttons",
      "slack supports at most " ++ toString limit ++ " buttons, sending text only",
      [("buttons", .ofNat given), ("max_buttons", .ofNat limit)]⟩
  | .botSelected true =>
    ⟨.info, "bot.handler.selected", "bot replies come from http endpoint",
      [("mode", .string "rest")]⟩
  | .botSelected false =>
    ⟨.info, "bot.handler.selected", "no bot endpoint configured, echoing messages",
      [("mode", .string "echo")]⟩
  | .botReplied conversation replies =>
    ⟨.debug, "bot.rest.responses_received", "bot endpoint replied",
      [("conversation_id", .string conversation), ("responses", .ofNat replies)]⟩
  | .signatureRejected request error =>
    ⟨.warn, "slack.webhook.signature_rejected", "rejected unsigned slack request",
      [correlation request, ("error", .string error)]⟩
  | .urlVerified request =>
    ⟨.info, "slack.webhook.url_verification", "answered slack url verification",
      [correlation request]⟩
  | .redeliveryDropped request attempt reason =>
    ⟨.warn, "slack.webhook.retry_ignored", "dropping slack redelivery",
      [correlation request, ("attempt", .string attempt), ("reason", .string reason)]⟩
  | .unprocessable request error =>
    ⟨.warn, "slack.webhook.unprocessable", "could not process slack request",
      [correlation request, ("error", .string error)]⟩
  | .messageReceived request conversation channel =>
    ⟨.info, "slack.webhook.message_received", "dispatching slack message to bot",
      [correlation request, ("conversation_id", .string conversation),
        ("channel_id", .string channel)]⟩
  | .handlerFailed request conversation error advice =>
    ⟨.error, "slack.webhook.handler_failed", "bot handler failed: " ++ advice,
      [correlation request, ("conversation_id", .string conversation), ("error", .string error)]⟩
  | .connectorReady channel useThreads granularity botMode =>
    ⟨.info, "system.bootstrap.slack_connector_ready", "slack connector initialized",
      [correlation "bootstrap", ("channel_id", .string (channel.getD "unset")),
        ("use_threads", .bool useThreads), ("conversation_granularity", .string granularity),
        ("bot_mode", .string botMode)]⟩
  | .serverStarted address webhookPath =>
    ⟨.info, "system.server.started", "parley-server listening for slack events",
      [correlation "bootstrap", ("bind_address", .string address),
        ("webhook_path", .string webhookPath)]⟩
  | .serverStopping stage =>
    let r := stage.record
    { r with fields := correlation "shutdown" :: r.fields }

/-- The fields of a line together with its name, its level and its text. -/
def Record.value (r : Record) : Value :=
  .object (("event_name", .string r.name) :: r.fields ++
    [("level", .string r.level.name), ("message", .string r.message)])

end SlackBridge.Log
