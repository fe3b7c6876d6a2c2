import SlackBridge.Settings.Layer
import SlackBridge.Toml.Document

/-!
Settings from a file: a TOML document with a section for each group of settings.

Keys that name no setting are ignored. A section may also be an array with its values in order.
-/

namespace SlackBridge.Settings

open Toml

/-- The keys of each section of a file, in order. -/
def slackKeys : List String :=
  ["slack_token", "slack_signing_secret", "slack_channel", "proxy", "slack_retry_reason_header",
    "slack_retry_number_header", "errors_ignore_retry", "use_threads",
    "conversation_granularity", "api_base_url", "max_request_age_secs"]

def botKeys : List String := ["endpoint_url", "timeout_secs"]

def serverKeys : List String := ["bind_address", "port", "graceful_shutdown_secs"]

def logKeys : List String := ["level", "format"]

/-- What a section gives for its keys. An array must have an item for each key; a time counts as a
section without keys. -/
def sectionMembers? (keys : List String) : Toml.Value → Option Toml.Members
  | .table _ ms => some ms
  | .array items => if keys.length ≤ items.length then some (keys.zip items) else none
  | .tables items =>
    if keys.length ≤ items.length then some (keys.zip (items.map (.table .header))) else none
  | .datetime _ => some []
  | _ => none

/-- A section of a document. A document without it says nothing there. -/
def docSection? (name : String) (keys : List String) (doc : Toml.Members) :
    Option Toml.Members :=
  match doc.lookup name with
  | none => some []
  | some v => sectionMembers? keys v

/-- What a section says about one key. -/
def field? (key : String) (read? : Toml.Value → Option α) (ms : Toml.Members) :
    Option (Option α) :=
  match ms.lookup key with
  | none => some none
  | some v => (read? v).map some

def string? : Toml.Value → Option String
  | .string s => some s
  | _ => none

def boolean? : Toml.Value → Option Bool
  | .boolean b => some b
  | _ => none

/-- A number that is not negative and not above `bound`. -/
def natural? (bound : Nat) : Toml.Value → Option Nat
  | .integer n => if 0 ≤ n ∧ n ≤ bound then some n.toNat else none
  | _ => none

def strings? : Toml.Value → Option (List String)
  | .array items => items.mapM string?
  | _ => none

/-- A name, or a table whose only key is the name and whose value is empty. -/
def named? (ofName? : String → Option α) : Toml.Value → Option α
  | .string s => ofName? s
  | .table _ [(s, .table _ [])] => ofName? s
  | .table _ [(s, .array [])] => ofName? s
  | _ => none

/-- What a file says. A blank channel, proxy or endpoint means that there is none. -/
def Layer.ofDocument (doc : Toml.Members) : Option Layer := do
  let slack ← docSection? "slack" slackKeys doc
  let bot ← docSection? "bot" botKeys doc
  let server ← docSection? "server" serverKeys doc
  let log ← docSection? "logging" logKeys doc
  let word := natural? Text.maxWord
  return {
    token := (← field? "slack_token" string? slack).map .mk
    signingSecret := (← field? "slack_signing_secret" string? slack).map .mk
    channel := (← field? "slack_channel" string? slack).map Text.trimmed?
    proxy := (← field? "proxy" string? slack).map Text.trimmed?
    retryReasonHeader := ← field? "slack_retry_reason_header" string? slack
    retryNumberHeader := ← field? "slack_retry_number_header" string? slack
    ignoredRetryReasons := ← field? "errors_ignore_retry" strings? slack
    useThreads := ← field? "use_threads" boolean? slack
    granularity :=
      ← field? "conversation_granularity" (named? Dialogue.Granularity.ofName?) slack
    apiBaseUrl := ← field? "api_base_url" string? slack
    maxRequestAgeSecs := ← field? "max_request_age_secs" word slack
    endpointUrl := (← field? "endpoint_url" string? bot).map Text.trimmed?
    timeoutSecs := ← field? "timeout_secs" word bot
    bindAddress := ← field? "bind_address" string? server
    port := ← field? "port" (natural? 65535) server
    gracefulShutdownSecs := ← field? "graceful_shutdown_secs" word server
    logLevel := ← field? "level" string? log
    logFormat := ← field? "format" (named? LogFormat.ofName?) log }

end SlackBridge.Settings
