import SlackBridge.Command.Outcome
import SlackBridge.Settings.Load

/-!
The settings in effect, each with where its value comes from. Secrets are not shown.
-/

namespace SlackBridge.Command

open Settings

/-- Where a value comes from. -/
inductive Source
  | variable (name : String)
  | file (path : String)
  | default
deriving DecidableEq, Repr

def Source.text : Source → String
  | .variable name => "env (" ++ name ++ ")"
  | .file path => "file (" ++ path ++ ")"
  | .default => "default"

/-- What may be shown of a token: what comes before its first hyphen. -/
def redactToken (token : String) : String :=
  let cs := (Text.trim token).toList
  if cs = [] then "<empty>"
  else if cs.contains '-' then String.ofList (cs.takeWhile (· != '-')) ++ "-***"
  else "<redacted>"

def redactSecret (secret : String) : String :=
  if Text.isBlankText secret then "<unset>" else "<redacted>"

/-- A setting as it is listed: its place in the file, the variables that give it, and how its value
is shown. -/
structure Row where
  sectionName : String
  key : String
  variableNames : List String
  shown : Settings → String

def unsetOr (value : Option String) : String :=
  value.getD "<unset>"

def truthText (b : Bool) : String :=
  if b then "true" else "false"

/-- All settings in the order in which they are listed. -/
def rows : List Row :=
  [⟨"slack", "slack_token", ["PARLEY_SLACK_TOKEN"], (redactToken ·.slack.token.reveal)⟩,
    ⟨"slack", "slack_signing_secret", ["PARLEY_SLACK_SIGNING_SECRET"],
      (redactSecret ·.slack.signingSecret.reveal)⟩,
    ⟨"slack", "slack_channel", ["PARLEY_SLACK_CHANNEL"], (unsetOr ·.slack.channel)⟩,
    ⟨"slack", "proxy", ["PARLEY_SLACK_PROXY"], (unsetOr ·.slack.proxy)⟩,
    ⟨"slack", "slack_retry_reason_header", ["PARLEY_SLACK_RETRY_REASON_HEADER"],
      (·.slack.retryReasonHeader)⟩,
    ⟨"slack", "slack_retry_number_header", ["PARLEY_SLACK_RETRY_NUMBER_HEADER"],
      (·.slack.retryNumberHeader)⟩,
    ⟨"slack", "errors_ignore_retry", ["PARLEY_SLACK_ERRORS_IGNORE_RETRY"],
      fun s => "[" ++ ", ".intercalate s.slack.ignoredRetryReasons ++ "]"⟩,
    ⟨"slack", "use_threads", ["PARLEY_SLACK_USE_THREADS"], (truthText ·.slack.useThreads)⟩,
    ⟨"slack", "conversation_granularity", ["PARLEY_SLACK_CONVERSATION_GRANULARITY"],
      (·.slack.granularity.name)⟩,
    ⟨"slack", "api_base_url", ["PARLEY_SLACK_API_BASE_URL"], (·.slack.apiBaseUrl)⟩,
    ⟨"slack", "max_request_age_secs", ["PARLEY_SLACK_MAX_REQUEST_AGE_SECS"],
      (toString ·.slack.maxRequestAgeSecs)⟩,
    ⟨"bot", "endpoint_url", ["PARLEY_BOT_ENDPOINT_URL"], (unsetOr ·.bot.endpointUrl)⟩,
    ⟨"bot", "timeout_secs", ["PARLEY_BOT_TIMEOUT_SECS"], (toString ·.bot.timeoutSecs)⟩,
    ⟨"server", "bind_address", ["PARLEY_SERVER_BIND_ADDRESS"], (·.server.bindAddress)⟩,
    ⟨"server", "port", ["PARLEY_SERVER_PORT"], (toString ·.server.port)⟩,
    ⟨"server", "graceful_shutdown_secs", ["PARLEY_SERVER_GRACEFUL_SHUTDOWN_SECS"],
      (toString ·.server.gracefulShutdownSecs)⟩,
    ⟨"logging", "level", logLevelVariables, (·.log.level)⟩,
    ⟨"logging", "format", logFormatVariables, (·.log.format.name)⟩]

/-- Whether a document, as it is written, has a key in a section. -/
def mentions (doc : Toml.Members) (sectionName key : String) : Bool :=
  match doc.lookup sectionName with
  | some (.table _ ms) => (ms.lookup key).isSome
  | _ => false

/-- Where the value of a setting comes from, as far as the file shows it before the references in
it are resolved. -/
def source (env : Environment) (file : Option (String × Toml.Members)) (row : Row) : Source :=
  match row.variableNames.find? fun name => (env.read? name).isSome with
  | some name => .variable name
  | none =>
    match file with
    | some (path, doc) => if mentions doc row.sectionName row.key then .file path else .default
    | none => .default

/-- The file with the settings and what is written in it, if that can be read as it stands. -/
def writtenFile (w : Surroundings) (path? : Option String) : Option (String × Toml.Members) := do
  let path ← w.settingsPath? path?
  let text ← (← w.fileText? path).toOption
  let doc ← Toml.read? text
  return (path, doc)

def listingLine (s : Settings) (env : Environment) (file : Option (String × Toml.Members))
    (row : Row) : String :=
  "- " ++ row.sectionName ++ "." ++ row.key ++ " = " ++ row.shown s ++ " (source: " ++
    (source env file row).text ++ ")"

/-- Lists the settings in effect. A file that is named must exist. -/
def listSettings (w : Surroundings) (path? : Option String) : Outcome :=
  match load w { path := path?, requireFile := path?.isSome } with
  | .error p =>
    .failure "config" "config_validation" ("config validation failed: " ++ p.message)
  | .ok s =>
    let lines := rows.map (listingLine s w.env (writtenFile w path?))
    ⟨0, "\n".intercalate
      ("effective config (source precedence: env > file > default):" :: lines)⟩

end SlackBridge.Command
