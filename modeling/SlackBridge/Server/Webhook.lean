import SlackBridge.Json.Printer
import SlackBridge.Slack.Output

/-!
The webhook: from a request to its answer and to the message that it brings.

The answer depends on the request alone. A request brings at most one message, and only if it is
signed; whatever comes of handling the message, its request has been answered before.
-/

namespace SlackBridge.Server

open Json Dialogue Slack

/-- A request to the server, under the id by which the log refers to it. -/
structure Incoming where
  id : String
  method : String
  target : String
  headers : Http.Headers
  body : Bytes

/-- An answer of the server. -/
structure Answer where
  status : Nat
  headers : Http.Headers
  body : String
deriving DecidableEq, Repr

namespace Answer

def blank (status : Nat) : Answer := ⟨status, [], ""⟩

def text (status : Nat) (body : String) : Answer :=
  ⟨status, [("content-type", "text/plain; charset=utf-8")], body⟩

def json (body : Value) : Answer :=
  ⟨200, [("content-type", "application/json")], body.compact⟩

end Answer

/-- A message to handle, with the request that brought it and the place for its answers. -/
structure Job where
  request : String
  message : Message
  destination : Destination
deriving DecidableEq, Repr

/-- What the server does about a request. -/
structure Reaction where
  answer : Answer
  log : List Log.Event
  job : Option Job

def notSigned : String :=
  "Message is not properly signed with a valid X-Slack-Signature header"

def notProcessed : String := "The input message could not be processed."

/-- The job of handling a message. -/
def Job.ofMessage (i : Inbox) (request : String) (m : Message) : Job :=
  ⟨request, m, i.destinationFor m.metadata⟩

def Job.received (j : Job) : Log.Event :=
  .messageReceived j.request j.message.sender (j.message.metadata.outChannel.getD "")

/-- What to do about a signed request, according to its meaning. -/
def reactTo (i : Inbox) (r : Incoming) : Except Unprocessable Delivery → Reaction
  | .ok (.challenge challenge) =>
    ⟨.json (.object [("challenge", .string challenge)]), [.urlVerified r.id], none⟩
  | .ok (.ignored reason) => ⟨.text 200 reason.text, [], none⟩
  | .ok (.message m) =>
    match i.redeliveries.inspect r.headers.text? with
    | some again =>
      ⟨⟨201, [(noRetryHeader, "1")], ""⟩,
        [.redeliveryDropped r.id again.attempt again.reason], none⟩
    | none =>
      let job := Job.ofMessage i r.id m
      ⟨.blank 200, [job.received], some job⟩
  | .error e => ⟨.text 500 notProcessed, [.unprocessable r.id e.message], none⟩

/-- Checks, reads and answers a request to the webhook. `now` is the time in seconds. -/
def react (i : Inbox) (now : Int) (r : Incoming) : Reaction :=
  let header := r.headers.text?
  match i.verifier.verify (header timestampHeader) (header signatureHeader) r.body now with
  | .error e => ⟨.text 400 notSigned, [.signatureRejected r.id e.message], none⟩
  | .ok () =>
    let reading := i.classify (header "content-type") r.body
    let reaction := reactTo i r reading.result
    { reaction with log := reading.log ++ reaction.log }

end SlackBridge.Server
