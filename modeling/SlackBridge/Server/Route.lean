import SlackBridge.Server.Webhook
import SlackBridge.Url.Parse

/-!
Routes: which requests the server knows, and what the others are answered.

A request names its route by the path in its target. The target is a path, with a query or a
fragment after it, or a whole URL; an authority alone and an asterisk have no path.
-/

namespace SlackBridge.Server

open Json Slack

/-- Whether a character ends the path of a request target. -/
def endsPath (c : Char) : Bool :=
  c == '?' || c == '#'

/-- What follows the scheme of a request target, if it has one. -/
def afterScheme? (target : List Char) : Option (List Char) :=
  match target.dropWhile Url.isSchemeChar with
  | ':' :: '/' :: '/' :: rest => some rest
  | _ => none

/-- The path in a request target. In a whole URL it follows the authority and is not empty. -/
def targetPath? (target : String) : Option String :=
  let upToEnd (path : List Char) : List Char := path.takeWhile fun c => !endsPath c
  let cs := target.toList
  if cs.head? = some '/' then some (String.ofList (upToEnd cs))
  else (afterScheme? cs).map fun rest =>
    match upToEnd (rest.dropWhile fun c => c != '/' && !endsPath c) with
    | [] => "/"
    | path => String.ofList path

inductive Route
  | status
  | webhook
  | health
deriving DecidableEq, Repr

namespace Route

def path : Route → String
  | .status => statusPath
  | .webhook => webhookPath
  | .health => "/health"

def methods : Route → List String
  | .webhook => ["POST"]
  | .status | .health => ["GET", "HEAD"]

/-- The route to which the path in a request target leads. -/
def find? (routes : List Route) (target : String) : Option Route :=
  (targetPath? target).bind fun path => routes.find? (·.path == path)

end Route

/-- The longest body that is read, in bytes. -/
def bodyLimit : Nat := 2 * 1024 * 1024

def tooLarge : Answer :=
  .text 413 "Failed to buffer the request body: length limit exceeded"

/-- The answer to a request for a document. -/
def document (method : String) (v : Value) : Answer :=
  let answer := Answer.json v
  if method = "HEAD" then { answer with body := "" } else answer

/-- What to do about any request to a server with the given routes. `health` is its report. -/
def respond (routes : List Route) (i : Inbox) (health : Value) (now : Int) (r : Incoming) :
    Reaction :=
  match Route.find? routes r.target with
  | none => ⟨.blank 404, [], none⟩
  | some route =>
    if route.methods.contains r.method then
      match route with
      | .status => ⟨document r.method (.object [("status", .string "ok")]), [], none⟩
      | .health => ⟨document r.method health, [], none⟩
      | .webhook => if r.body.length > bodyLimit then ⟨tooLarge, [], none⟩ else react i now r
    else ⟨⟨405, [("allow", ",".intercalate route.methods)], ""⟩, [], none⟩

end SlackBridge.Server
