import SlackBridge.Dialogue.Failure
import SlackBridge.Http.Request
import SlackBridge.Log
import SlackBridge.Slack.Backoff
import SlackBridge.Slack.Post
import SlackBridge.Slack.Signature

/-!
The Web API: posting messages and asking whose token it is.

A call is a series of attempts. It ends with the first attempt that is not worth repeating or with
the last one allowed, and its result depends on that attempt alone.
-/

namespace SlackBridge.Slack

open Json

/-- Why a call failed. -/
inductive ApiError
  | client (reason : String)
  | transport (method reason : String)
  | status (method : String) (code : Nat) (body : String)
  | decode (method reason : String)
  | api (code : String)
deriving DecidableEq, Repr

def ApiError.message : ApiError → String
  | .client reason => "could not build slack http client: " ++ reason
  | .transport method reason =>
    "slack api `" ++ method ++ "` transport failure: " ++ reason
  | .status method code body =>
    "slack api `" ++ method ++ "` answered http " ++ toString code ++ ": " ++ body
  | .decode method reason =>
    "slack api `" ++ method ++ "` returned an unreadable body: " ++ reason
  | .api code => "slack api error `" ++ code ++ "`"

/-- The failure of a message whose handling needed the call. -/
def ApiError.failure (e : ApiError) : Dialogue.Failure :=
  .integration e.message

/-- What a call came to: the state it left, what it logged, and its result. -/
structure Called (σ α : Type) where
  state : σ
  log : List Log.Event
  result : Except ApiError α

/-- What one attempt came to. -/
abbrev Attempt := Except Http.Failure Http.Response

namespace Attempt

/-- The seconds that an answer asks to wait. -/
def retryAfter? (r : Http.Response) : Option UInt64 :=
  (r.headers.text? "retry-after").bind fun value =>
    (Text.natural? Text.maxWord (Text.trim value)).map .ofNat

/-- The reason to repeat an attempt, with the wait asked for, if it is worth repeating. -/
def retry? : Attempt → Option (Log.RetryCause × Option UInt64)
  | .ok r =>
    if !r.isSuccess && isRetryableStatus r.status then some (.status r.status, retryAfter? r)
    else none
  | .error e => if e.isTransient then some (.transport e.message, none) else none

/-- The most characters of an answer that an error quotes. -/
def bodyLimit : Nat := 400

/-- A text cut off after the given number of characters. -/
def shorten (limit : Nat) (s : String) : String :=
  let cs := s.toList
  if cs.length ≤ limit then s else String.ofList (cs.take limit ++ "...".toList)

/-- The result of a call that ends with this attempt. -/
def conclude (method : String) (decode : Decoder α) : Attempt → Except ApiError α
  | .ok r =>
    if r.isSuccess then
      match r.json? decode with
      | some a => .ok a
      | none => .error (.decode method Http.Failure.unreadable.message)
    else .error (.status method r.status (shorten bodyLimit r.text))
  | .error e => .error (.transport method e.message)

end Attempt

/-- Makes attempt number `done` (counted from 0) and, while it is worth repeating, up to `left`
more. Gives the last attempt and a log entry for each repetition. -/
def attemptsFrom (make : Nat → σ → Attempt × σ) (policy : RetryPolicy) (method : String) :
    (left done : Nat) → σ → Attempt × List Log.Event × σ
  | 0, done, s =>
    let (attempt, s) := make done s
    (attempt, [], s)
  | left + 1, done, s =>
    let (attempt, s) := make done s
    match attempt.retry? with
    | none => (attempt, [], s)
    | some (cause, asked) =>
      let wait := policy.delay (.ofNat (done + 1)) asked
      let (last, log, s) := attemptsFrom make policy method left (done + 1) s
      (last, .callRetried method (done + 1) cause wait.toNat :: log, s)

/-- Makes the attempts of a call and concludes from the last one. -/
def repeatCall (make : Nat → σ → Attempt × σ) (policy : RetryPolicy) (method : String)
    (decode : Decoder α) (s : σ) : Called σ α :=
  let (last, log, s) := attemptsFrom make policy method (policy.maxAttempts.toNat - 1) 0 s
  ⟨s, log, last.conclude method decode⟩

/-- What every answer of the Web API may hold. -/
structure ApiAnswer where
  ok : Bool
  error : Option String
  channel : Option String
  ts : Option String
  userId : Option String
  team : Option String
  botId : Option String
  url : Option String
deriving Repr

namespace ApiAnswer

def fieldNames : List String :=
  ["ok", "error", "channel", "ts", "user_id", "team", "bot_id", "url"]

def decode : Decoder ApiAnswer := fun t => do
  let r ← Record.read? fieldNames t
  let text (name : String) : Option (Option String) := r.optional name Decoder.string
  return {
    ok := ← r.required "ok" Decoder.bool
    error := ← text "error"
    channel := ← text "channel"
    ts := ← text "ts"
    userId := ← text "user_id"
    team := ← text "team"
    botId := ← text "bot_id"
    url := ← text "url" }

/-- An answer that reports an error is one. -/
def check (a : ApiAnswer) : Except ApiError ApiAnswer :=
  if a.ok then .ok a else .error (.api (a.error.getD "unknown_error"))

end ApiAnswer

/-- A message that was posted. -/
structure Posted where
  channel : String
  ts : Option String
deriving DecidableEq, Repr

/-- Whose token it is. -/
structure Identity where
  userId : String
  team : Option String
  botId : Option String
  url : Option String
deriving DecidableEq, Repr

/-- A client of the Web API. -/
structure Client where
  token : Secret
  baseUrl : String
  proxy : Option String
  timeoutMs : Nat
  retry : RetryPolicy
deriving Repr

namespace Client

/-- The milliseconds that a client waits for an answer unless told otherwise. -/
def defaultTimeoutMs : Nat := 10000

/-- Makes a client. Slashes at the end of the base URL do not count; a proxy must be a URL. -/
def create (token : Secret) (baseUrl : String) (proxy : Option String) (timeoutMs : Nat)
    (retry : RetryPolicy) : Except ApiError Client :=
  let base := String.ofList (baseUrl.toList.reverse.dropWhile (· == '/')).reverse
  match proxy.filter (!Http.isProxy ·) with
  | some p =>
    .error (.client ("invalid proxy `" ++ p ++ "`: " ++ Http.Failure.unbuildable.message))
  | none => .ok ⟨token, base, proxy, timeoutMs, retry⟩

def agent : String := "parley/0.1.0"

/-- The header that counts the attempts of a call, from 0. -/
def attemptHeader : String := "x-parley-retry-attempt"

/-- The request of one attempt. -/
def request (c : Client) (method : String) (body : Option Value) (attempt : Nat) :
    Http.Request where
  url := c.baseUrl ++ "/" ++ method
  headers :=
    [("authorization", "Bearer " ++ c.token.reveal), (attemptHeader, toString attempt)] ++
      (if body.isSome then [("content-type", "application/json")] else []) ++
      [("user-agent", agent), ("accept", "application/json")]
  body := body
  proxy := c.proxy
  timeoutMs := c.timeoutMs

/-- Calls a method and reads its answer. -/
def call (c : Client) (wire : Http.Wire σ) (method : String) (body : Option Value)
    (decode : Decoder α) (s : σ) : Called σ α :=
  repeatCall (fun attempt s => Http.send wire s (c.request method body attempt)) c.retry method
    decode s

def postMethod : String := "chat.postMessage"

/-- Posts a message. -/
def post (c : Client) (wire : Http.Wire σ) (s : σ) (p : Post) : Called σ Posted :=
  let called := c.call wire postMethod (some (.object p.fields)) ApiAnswer.decode s
  match called.result.bind ApiAnswer.check with
  | .error e => ⟨called.state, called.log, .error e⟩
  | .ok a =>
    ⟨called.state, called.log ++ [.messagePosted (a.channel.getD "") (a.ts.getD "")],
      .ok ⟨(a.channel <|> p.channel?).getD "", a.ts⟩⟩

def authMethod : String := "auth.test"

/-- The identity that an answer gives. The user id must not be blank. -/
def identity (a : ApiAnswer) : Except ApiError Identity :=
  match a.userId.filter (!Text.isBlankText ·) with
  | some userId => .ok ⟨userId, a.team, a.botId, a.url⟩
  | none => .error (.decode authMethod "response is missing `user_id`")

/-- Asks whose token it is. -/
def authTest (c : Client) (wire : Http.Wire σ) (s : σ) : Called σ Identity :=
  let called := c.call wire authMethod none ApiAnswer.decode s
  ⟨called.state, called.log, (called.result.bind ApiAnswer.check).bind identity⟩

end Client
end SlackBridge.Slack
