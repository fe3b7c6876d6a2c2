import SlackBridge.Dialogue.Bot
import SlackBridge.Server.Route
import SlackBridge.Server.Tasks
import SlackBridge.Settings.Load

/-!
The app: what the settings make of the bridge, and how it is launched.
-/

namespace SlackBridge

namespace Slack

/-- The inbox that the settings describe. -/
def Inbox.ofSettings (s : Settings.ForSlack) : Inbox where
  channel := s.channel
  useThreads := s.useThreads
  granularity := s.granularity
  verifier := ⟨s.signingSecret, s.maxRequestAgeSecs⟩
  redeliveries :=
    .ofHeaders s.retryReasonHeader s.retryNumberHeader s.ignoredRetryReasons

/-- The client that the settings describe. -/
def Client.ofSettings (s : Settings.ForSlack) : Except ApiError Client :=
  Client.create s.token s.apiBaseUrl s.proxy Client.defaultTimeoutMs .default

end Slack

/-- The bot that the settings describe. -/
def Dialogue.Bot.ofSettings (s : Settings.ForBot) : Bot :=
  match s.endpointUrl with
  | some url => .endpoint url s.timeoutSecs
  | none => .echo

namespace Server

open Dialogue Slack Json

/-- What the health report says about the connection to Slack. -/
def slackSummary (s : Settings.ForSlack) : Value :=
  .object [("channel", .ofText? s.channel), ("use_threads", .bool s.useThreads),
    ("conversation_granularity", .string s.granularity.name),
    ("proxy_configured", .bool s.proxy.isSome)]

/-- The health report, without any secret. -/
def healthReport (s : Settings) (checkedAt : String) : Value :=
  .object [("status", .string "ready"),
    ("service", .object [("status", .string "ready"),
      ("detail", .string "parley-server webhook listener initialized")]),
    ("slack", slackSummary s.slack), ("bot_mode", .string (Bot.ofSettings s.bot).mode),
    ("checked_at", .string checkedAt)]

/-- Everything that requests are served with. -/
structure App where
  settings : Settings
  client : Client
  inbox : Inbox
  bot : Bot

/-- Why there is no app. -/
inductive StartError
  | slackClient (e : ApiError)
deriving DecidableEq, Repr

def StartError.message : StartError → String
  | .slackClient e => "slack web api client could not be created: " ++ e.message

namespace App

/-- Makes an app, whether or not the settings have been checked. -/
def start (s : Settings) : Except StartError App :=
  match Client.ofSettings s.slack with
  | .error e => .error (.slackClient e)
  | .ok client => .ok ⟨s, client, .ofSettings s.slack, .ofSettings s.bot⟩

/-- What is logged when an app is made. -/
def started (a : App) : List Log.Event :=
  [.botSelected a.bot.forwards,
    .connectorReady a.settings.slack.channel a.settings.slack.useThreads
      a.settings.slack.granularity.name a.bot.mode]

/-- Handles a message: the bot's replies are posted where the message came from. -/
def handler (a : App) (wire : Http.Wire σ) : Handler σ := fun s job =>
  a.bot.handle wire (job.destination.send fun s p => a.client.post wire s p) s job.message

/-- What to do about any request. -/
def react (a : App) (checkedAt : String) (now : Int) (r : Incoming) : Reaction :=
  respond [.status, .webhook, .health] a.inbox (healthReport a.settings checkedAt) now r

end App

/-- Why the server does not come up. -/
inductive LaunchError
  | settings (p : Settings.Problem)
  | start (e : StartError)
  | bind (address reason : String)
deriving DecidableEq, Repr

namespace LaunchError

def message : LaunchError → String
  | .settings p => p.message
  | .start e => e.message
  | .bind address _ => "failed to bind webhook listener on " ++ address

/-- What lies behind an error. -/
def cause? : LaunchError → Option String
  | .settings (.unreadableFile _ e) => some e.message
  | .settings (.malformedFile _) => some "TOML parse error"
  | .settings _ => none
  | .start (.slackClient e) => some e.message
  | .bind _ reason => some reason

/-- The error as the program reports it. -/
def text (e : LaunchError) : String :=
  let cause := match e.cause? with
    | some c => "\n\nCaused by:\n    " ++ c
    | none => ""
  "Error: " ++ e.message ++ cause ++ "\n"

end LaunchError

/-- The address that the server listens on. -/
def address (s : Settings.ForServer) : String :=
  s.bindAddress ++ ":" ++ toString s.port

/-- Brings the server up: loads the settings, makes the app and binds its address. Gives the app and
what was logged. -/
def launch (w : Settings.Surroundings) (bind : String → Except String Unit) :
    Except LaunchError (App × List Log.Event) :=
  match Settings.load w {} with
  | .error p => .error (.settings p)
  | .ok settings =>
    match App.start settings with
    | .error e => .error (.start e)
    | .ok app =>
      let address := address settings.server
      match bind address with
      | .error reason => .error (.bind address reason)
      | .ok () => .ok (app, app.started ++ [.serverStarted address webhookPath])

end Server
end SlackBridge
