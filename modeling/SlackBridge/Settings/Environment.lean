import SlackBridge.Settings.Layer
import SlackBridge.Settings.Problem

/-!
Settings from environment variables, and references to variables in texts.

A variable that is blank counts as unset. One that is set must be readable, whether its value is
used in the end or not.
-/

namespace SlackBridge.Settings

/-- The values of the variables that are set. -/
abbrev Environment := String → Option String

namespace Environment

/-- The value of a variable unless it is blank. -/
def read? (env : Environment) (name : String) : Option String :=
  (env name).filter (!Text.isBlankText ·)

/-- The value of the first of several variables that is not blank. -/
def readFirst? (env : Environment) (names : List String) : Option String :=
  names.findSome? env.read?

end Environment

/-- The entries of a list between commas, trimmed and without the blank ones. -/
def listEntries (value : String) : List String :=
  ((Text.splitAtChar (· == ',') value.toList).map Text.trimChars).filter (· ≠ [])
    |>.map String.ofList

/-- A truth value in any case, with blanks around it. -/
def truth? (value : String) : Option Bool :=
  match Text.lowerAscii (Text.trim value) with
  | "true" => some true
  | "false" => some false
  | _ => none

def maxPort : Nat := 65535

/-- The value of a variable that has to be readable if it is set. -/
def parsed (env : Environment) (name : String) (read? : String → Option α) :
    Except Problem (Option α) :=
  match env.read? name with
  | none => .ok none
  | some value =>
    match read? value with
    | some a => .ok (some a)
    | none => .error (.invalidVariable name value)

/-- The variables that give the log level and the log format, the first one first. -/
def logLevelVariables : List String := ["PARLEY_LOGGING_LEVEL", "PARLEY_LOG_LEVEL"]

def logFormatVariables : List String := ["PARLEY_LOGGING_FORMAT", "PARLEY_LOG_FORMAT"]

/-- The log format that the environment names. -/
def namedFormat (env : Environment) : Except Problem (Option LogFormat) :=
  match env.readFirst? logFormatVariables with
  | none => .ok none
  | some value =>
    match LogFormat.read? value with
    | some format => .ok (some format)
    | none => .error (.refused (.logFormat (Dialogue.Granularity.normalName value)))

/-- What the environment says. -/
def Layer.ofEnvironment (env : Environment) : Except Problem Layer := do
  let useThreads ← parsed env "PARLEY_SLACK_USE_THREADS" truth?
  let granularity ← parsed env "PARLEY_SLACK_CONVERSATION_GRANULARITY" Dialogue.Granularity.read?
  let maxRequestAgeSecs ←
    parsed env "PARLEY_SLACK_MAX_REQUEST_AGE_SECS" (Text.natural? Text.maxWord)
  let timeoutSecs ← parsed env "PARLEY_BOT_TIMEOUT_SECS" (Text.natural? Text.maxWord)
  let port ← parsed env "PARLEY_SERVER_PORT" (Text.natural? maxPort)
  let gracefulShutdownSecs ←
    parsed env "PARLEY_SERVER_GRACEFUL_SHUTDOWN_SECS" (Text.natural? Text.maxWord)
  let format ← namedFormat env
  return {
    token := (env.read? "PARLEY_SLACK_TOKEN").map .mk
    signingSecret := (env.read? "PARLEY_SLACK_SIGNING_SECRET").map .mk
    channel := (env.read? "PARLEY_SLACK_CHANNEL").map some
    proxy := (env.read? "PARLEY_SLACK_PROXY").map some
    retryReasonHeader := env.read? "PARLEY_SLACK_RETRY_REASON_HEADER"
    retryNumberHeader := env.read? "PARLEY_SLACK_RETRY_NUMBER_HEADER"
    ignoredRetryReasons := (env.read? "PARLEY_SLACK_ERRORS_IGNORE_RETRY").map listEntries
    useThreads := useThreads
    granularity := granularity
    apiBaseUrl := env.read? "PARLEY_SLACK_API_BASE_URL"
    maxRequestAgeSecs := maxRequestAgeSecs
    endpointUrl := (env.read? "PARLEY_BOT_ENDPOINT_URL").map some
    timeoutSecs := timeoutSecs
    bindAddress := env.read? "PARLEY_SERVER_BIND_ADDRESS"
    port := port
    gracefulShutdownSecs := gracefulShutdownSecs
    logLevel := env.readFirst? logLevelVariables
    logFormat := format }

/-- Puts the values of variables in place of the references to them, from the left. A value is not
searched for references again. -/
def interpolate (env : Environment) : List Char → Except Problem (List Char)
  | [] => .ok []
  | '$' :: '\x7b' :: cs =>
    match _h : cs.dropWhile (· != '\x7d') with
    | [] => .error .unterminatedReference
    | _ :: rest =>
      let name := String.ofList (cs.takeWhile (· != '\x7d'))
      match env name with
      | none => .error (.unsetVariable name)
      | some value => (interpolate env rest).map (value.toList ++ ·)
  | c :: cs => (interpolate env cs).map (c :: ·)
termination_by cs => cs.length
decreasing_by
  · have hl := (List.dropWhile_sublist (l := cs) (· != '\x7d')).length_le
    rw [_h] at hl
    simp only [List.length_cons] at hl ⊢
    omega
  · simp

/-- The names of the variables that a text may refer to. -/
def referredNames (text : String) : List String :=
  ((Text.splitAtChar (· == '\x7b') text.toList).map (·.takeWhile (· != '\x7d'))).map String.ofList

end SlackBridge.Settings
