import SlackBridge.Command.Outcome
import SlackBridge.Slack.Inbox
import SlackBridge.Url.Parse

/-!
The URL to register with Slack, from the public base URL of the server.
-/

namespace SlackBridge.Command

/-- Why there is no URL to register. -/
inductive UrlError
  | malformed (given : String) (error : Url.ParseError)
  | plainHttp
  | scheme (name : String)
  | noHost (given : String)
  | extraParts
deriving DecidableEq, Repr

def UrlError.message : UrlError → String
  | .malformed given error => "`" ++ given ++ "` is not a valid URL: " ++ error.message
  | .plainHttp =>
    "Slack requires an https request URL; pass --allow-http for local tunnels"
  | .scheme name => "unsupported scheme `" ++ name ++ "`, expected https"
  | .noHost given => "`" ++ given ++ "` has no host"
  | .extraParts => "base URL must not carry a query string or fragment"

/-- The schemes that are accepted. -/
def checkScheme (scheme : String) (allowHttp : Bool) : Except UrlError Unit :=
  match scheme with
  | "https" => .ok ()
  | "http" => if allowHttp then .ok () else .error .plainHttp
  | other => .error (.scheme other)

/-- Drops the slashes at the end. -/
def trimSlashes (cs : List Char) : List Char :=
  (cs.reverse.dropWhile (· == '/')).reverse

/-- The URL of the webhook under a base URL. -/
def webhookUrl (base : String) (allowHttp : Bool) : Except UrlError String :=
  match Url.parse (Text.trim base) with
  | .error e => .error (.malformed base e)
  | .ok url => do
    checkScheme (String.ofList url.scheme) allowHttp
    if !url.hasHost then throw (.noHost base)
    if url.query.isSome || url.fragment.isSome then throw .extraParts
    return String.ofList (trimSlashes url.chars) ++ Slack.webhookPath

def printWebhookUrl (base : String) (allowHttp : Bool) : Outcome :=
  match webhookUrl base allowHttp with
  | .ok url => .success "webhook-url" url
  | .error e => .failure "webhook-url" "invalid_url" e.message

end SlackBridge.Command
