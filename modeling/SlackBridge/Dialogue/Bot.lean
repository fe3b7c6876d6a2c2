import SlackBridge.Dialogue.Delivery
import SlackBridge.Dialogue.Message
import SlackBridge.Http.Request

/-!
The bot: who answers messages.

Without an endpoint every message is echoed. With one, the message is posted to it and its answer,
a list of replies, is delivered; an answer that cannot be read in full delivers nothing.
-/

namespace SlackBridge.Dialogue

open Json

inductive Bot
  | echo
  | endpoint (url : String) (timeoutSecs : Nat)
deriving DecidableEq, Repr

/-- Why the endpoint gave no replies. -/
inductive BotError
  | unreachable (reason : String)
  | status (code : Nat)
  | unreadable (reason : String)
deriving DecidableEq, Repr

def BotError.message : BotError → String
  | .unreachable reason => "bot endpoint request failed: " ++ reason
  | .status code => "bot endpoint answered http " ++ toString code
  | .unreadable reason => "bot endpoint returned an unreadable body: " ++ reason

def BotError.failure (e : BotError) : Failure :=
  .integration e.message

namespace Bot

/-- Whether messages go to an endpoint. -/
def forwards : Bot → Bool
  | .echo => false
  | .endpoint _ _ => true

def mode (b : Bot) : String :=
  if b.forwards then "rest" else "echo"

/-- The message as the endpoint receives it. -/
def questionBody (m : Message) : Value :=
  .object [("sender", .string m.sender), ("message", .string m.text),
    ("input_channel", .string m.inputChannel), ("metadata", m.metadata.value)]

def question (url : String) (timeoutSecs : Nat) (m : Message) : Http.Request where
  url := url
  headers := [("content-type", "application/json"), ("accept", "*/*")]
  body := some (questionBody m)
  proxy := none
  timeoutMs := timeoutSecs * 1000

/-- The replies in what came back from the endpoint. -/
def replies : Except Http.Failure Http.Response → Except BotError (List Reply)
  | .error e => .error (.unreachable e.message)
  | .ok r =>
    if r.isSuccess then
      match r.json? Reply.decodeList with
      | some replies => .ok replies
      | none => .error (.unreadable Http.Failure.unreadable.message)
    else .error (.status r.status)

/-- Answers a message: gets the replies and sends them by way of `send`. -/
def handle (b : Bot) (wire : Http.Wire σ) (send : σ → Sending → Outcome σ Failure) (s : σ)
    (m : Message) : Outcome σ Failure :=
  match b with
  | .echo => deliver send m.sender [.ofText m.text] s
  | .endpoint url timeoutSecs =>
    let (answer, s) := Http.send wire s (question url timeoutSecs m)
    match replies answer with
    | .error e => ⟨s, [], some e.failure⟩
    | .ok replies =>
      (deliver send m.sender replies s).after [.botReplied m.sender replies.length]

end Bot
end SlackBridge.Dialogue
