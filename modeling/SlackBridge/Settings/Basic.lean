import SlackBridge.Dialogue.Conversation
import SlackBridge.Slack.Signature

/-!
Settings of the bridge and their defaults.
-/

namespace SlackBridge

namespace Settings

/-- How log lines are laid out. -/
inductive LogFormat
  | compact
  | pretty
  | json
deriving DecidableEq, Repr

namespace LogFormat

def name : LogFormat → String
  | .compact => "compact"
  | .pretty => "pretty"
  | .json => "json"

def ofName? : String → Option LogFormat
  | "compact" => some .compact
  | "pretty" => some .pretty
  | "json" => some .json
  | _ => none

/-- Reads a name with any case and surrounding blanks. -/
def read? (s : String) : Option LogFormat :=
  ofName? (Dialogue.Granularity.normalName s)

end LogFormat

structure ForSlack where
  token : Slack.Secret
  signingSecret : Slack.Secret
  channel : Option String
  proxy : Option String
  retryReasonHeader : String
  retryNumberHeader : String
  ignoredRetryReasons : List String
  useThreads : Bool
  granularity : Dialogue.Granularity
  apiBaseUrl : String
  maxRequestAgeSecs : Nat
deriving DecidableEq, Repr

structure ForBot where
  endpointUrl : Option String
  timeoutSecs : Nat
deriving DecidableEq, Repr

structure ForServer where
  bindAddress : String
  port : Nat
  gracefulShutdownSecs : Nat
deriving DecidableEq, Repr

structure ForLog where
  level : String
  format : LogFormat
deriving DecidableEq, Repr

end Settings

/-- All settings. The secrets among them are not shown. -/
structure Settings where
  slack : Settings.ForSlack
  bot : Settings.ForBot
  server : Settings.ForServer
  log : Settings.ForLog
deriving DecidableEq, Repr

namespace Settings

/-- What holds where nothing else is said. -/
def default : Settings where
  slack := {
    token := ⟨""⟩
    signingSecret := ⟨""⟩
    channel := none
    proxy := none
    retryReasonHeader := "x-slack-retry-reason"
    retryNumberHeader := "x-slack-retry-num"
    ignoredRetryReasons := ["http_timeout"]
    useThreads := false
    granularity := .sender
    apiBaseUrl := "https://slack.com/api"
    maxRequestAgeSecs := 300 }
  bot := { endpointUrl := none, timeoutSecs := 30 }
  server := { bindAddress := "0.0.0.0", port := 5005, gracefulShutdownSecs := 15 }
  log := { level := "info", format := .compact }

end Settings
end SlackBridge
