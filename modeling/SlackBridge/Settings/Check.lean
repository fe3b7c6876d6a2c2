import SlackBridge.Settings.Problem
import SlackBridge.Text.Pieces

/-!
Which settings can be used. The first violation in the order of the checks is the one reported.
-/

namespace SlackBridge.Settings

/-- Whether a text starts like a URL of the web. -/
def hasWebScheme (s : String) : Bool :=
  Text.hasStart "http://" s || Text.hasStart "https://" s

/-- The characters of header names. -/
def isHeaderNameChar (c : Char) : Bool :=
  Text.isAsciiAlphanumeric c || "!#$%&'*+-.^_`|~".toList.contains c

def isHeaderName (s : String) : Bool :=
  s != "" && s.toList.all isHeaderNameChar

/-- Refuses a value unless it passes. -/
def require (ok : Bool) (v : Violation) : Except Violation Unit :=
  if ok then .ok () else .error v

def checkToken (token : String) : Except Violation Unit := do
  require (!Text.isBlankText token) .tokenMissing
  require (Text.hasStart "xoxb" token) <| .tokenWrong <|
    if Text.hasStart "xapp-" token then .appLevel
    else if Text.hasStart "xoxp-" token then .user
    else .other

def checkProxy : Option String → Except Violation Unit
  | none => .ok ()
  | some proxy =>
    match Url.parse proxy with
    | .error e => .error (.proxyMalformed e)
    | .ok url => require (url.scheme = "http".toList) (.proxyScheme (String.ofList url.scheme))

def checkHeader (key header : String) : Except Violation Unit :=
  require (isHeaderName header) (.headerName key header)

def ForSlack.check (s : ForSlack) : Except Violation Unit := do
  checkToken s.token.reveal
  require (!Text.isBlankText s.signingSecret.reveal) .signingSecretMissing
  checkProxy s.proxy
  checkHeader "slack.slack_retry_reason_header" s.retryReasonHeader
  checkHeader "slack.slack_retry_number_header" s.retryNumberHeader
  require (s.ignoredRetryReasons.all (!Text.isBlankText ·)) .blankRetryReason
  require (hasWebScheme s.apiBaseUrl) .apiBaseUrl
  require (1 ≤ s.maxRequestAgeSecs && s.maxRequestAgeSecs ≤ 3600) .maxRequestAge

def ForBot.check (b : ForBot) : Except Violation Unit := do
  require (b.endpointUrl.all hasWebScheme) .endpointUrl
  require (1 ≤ b.timeoutSecs && b.timeoutSecs ≤ 300) .botTimeout

def ForServer.check (s : ForServer) : Except Violation Unit := do
  require (s.port != 0) .port
  require (s.gracefulShutdownSecs != 0) .gracefulShutdown

def logLevels : List String := ["trace", "debug", "info", "warn", "error"]

def ForLog.check (l : ForLog) : Except Violation Unit :=
  require (logLevels.contains (Text.lowerAscii (Text.trim l.level))) .logLevel

/-- Checks the final values, whichever layers they come from. -/
def check (s : Settings) : Except Violation Unit := do
  s.slack.check
  s.bot.check
  s.server.check
  s.log.check

end SlackBridge.Settings
