import SlackBridge.Settings.Basic
import SlackBridge.Url.Parse

/-!
Problems with the settings: why they cannot be loaded, and which values are refused.
-/

namespace SlackBridge.Settings

/-- What a token seems to be that is not the one of the bot. -/
inductive WrongToken
  | appLevel
  | user
  | other
deriving DecidableEq, Repr

/-- A value that is refused. -/
inductive Violation
  | tokenMissing
  | tokenWrong (kind : WrongToken)
  | signingSecretMissing
  | proxyMalformed (error : Url.ParseError)
  | proxyScheme (scheme : String)
  | headerName (key header : String)
  | blankRetryReason
  | apiBaseUrl
  | maxRequestAge
  | endpointUrl
  | botTimeout
  | port
  | gracefulShutdown
  | logLevel
  | logFormat (name : String)
deriving DecidableEq, Repr

def WrongToken.hint : WrongToken → String
  | .appLevel => " (hint: you may have used the app-level token instead of the bot token)"
  | .user => " (hint: you may have used a user token instead of the bot token)"
  | .other => ""

def Violation.message : Violation → String
  | .tokenMissing =>
    "slack.slack_token is required. Get it from https://api.slack.com/apps > Your App > " ++
      "OAuth & Permissions > Bot User OAuth Token"
  | .tokenWrong kind =>
    "slack.slack_token must start with `xoxb`" ++ kind.hint ++
      ". Get it from https://api.slack.com/apps"
  | .signingSecretMissing =>
    "slack.slack_signing_secret is required. Get it from https://api.slack.com/apps > " ++
      "Your App > Basic Information > App Credentials"
  | .proxyMalformed error => "slack.proxy is not a valid URL: " ++ error.message
  | .proxyScheme scheme =>
    "slack.proxy must be an HTTP proxy (`http://...`), got scheme `" ++ scheme ++ "`"
  | .headerName key header =>
    key ++ " must be a valid HTTP header name, got `" ++ header ++ "`"
  | .blankRetryReason => "slack.errors_ignore_retry must not contain empty entries"
  | .apiBaseUrl => "slack.api_base_url must start with http:// or https://"
  | .maxRequestAge => "slack.max_request_age_secs must be in range 1..=3600"
  | .endpointUrl => "bot.endpoint_url must start with http:// or https://"
  | .botTimeout => "bot.timeout_secs must be in range 1..=300"
  | .port => "server.port must be greater than zero"
  | .gracefulShutdown => "server.graceful_shutdown_secs must be greater than zero"
  | .logLevel => "logging.level must be one of trace|debug|info|warn|error"
  | .logFormat name =>
    "unsupported log format `" ++ name ++ "` (expected compact|pretty|json)"

/-- Why a file cannot be read. -/
inductive FileError
  | isDirectory
  | denied
  | notText
deriving DecidableEq, Repr

def FileError.message : FileError → String
  | .isDirectory => "Is a directory (os error 21)"
  | .denied => "Permission denied (os error 13)"
  | .notText => "stream did not contain valid UTF-8"

/-- Why the settings cannot be loaded. -/
inductive Problem
  | unreadableFile (path : String) (error : FileError)
  | malformedFile (path : String)
  | missingFile (path : String)
  | unsetVariable (name : String)
  | unterminatedReference
  | invalidVariable (name value : String)
  | refused (v : Violation)
deriving DecidableEq, Repr

def Problem.message : Problem → String
  | .unreadableFile path error =>
    "could not read config file `" ++ path ++ "`: " ++ error.message
  | .malformedFile path => "could not parse config file `" ++ path ++ "`: TOML parse error"
  | .missingFile path => "required config file was not found: `" ++ path ++ "`"
  | .unsetVariable name => "environment variable interpolation failed for `" ++ name ++ "`"
  | .unterminatedReference => "unterminated environment interpolation expression"
  | .invalidVariable name value =>
    "invalid environment override for `" ++ name ++ "`: `" ++ value ++ "`"
  | .refused v => "configuration validation failed: " ++ v.message

end SlackBridge.Settings
