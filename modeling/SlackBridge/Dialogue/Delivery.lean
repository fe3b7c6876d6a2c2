import SlackBridge.Dialogue.Failure
import SlackBridge.Dialogue.Reply
import SlackBridge.Log

/-!
Delivering replies.

A list of replies is a plan: the parts to send, in order, each with its recipient. `runAll` carries
out any list of steps up to the first one that fails, so what is sent is always a start of the plan.
-/

namespace SlackBridge.Dialogue

open Json

/-- What one or more steps came to: the state they left, what they logged, and why they stopped
short, if they did. -/
structure Outcome (σ ε : Type) where
  state : σ
  log : List Log.Event
  failure : Option ε

namespace Outcome

/-- Nothing happened. -/
def unchanged (s : σ) : Outcome σ ε := ⟨s, [], none⟩

/-- Goes on with the second part unless the first one failed. -/
def andThen (first : Outcome σ ε) (next : σ → Outcome σ ε) : Outcome σ ε :=
  match first.failure with
  | some e => ⟨first.state, first.log, some e⟩
  | none =>
    let second := next first.state
    ⟨second.state, first.log ++ second.log, second.failure⟩

/-- The same outcome after some earlier events. -/
def after (events : List Log.Event) (o : Outcome σ ε) : Outcome σ ε :=
  { o with log := events ++ o.log }

end Outcome

/-- Takes one step for each item, in order, up to the first one that fails. -/
def runAll (step : σ → α → Outcome σ ε) : List α → σ → Outcome σ ε
  | [], s => .unchanged s
  | a :: rest, s => (step s a).andThen (runAll step rest)

theorem runAll_append (step : σ → α → Outcome σ ε) (xs ys : List α) (s : σ) :
    runAll step (xs ++ ys) s = (runAll step xs s).andThen (runAll step ys) := by
  induction xs generalizing s with
  | nil =>
    cases h : runAll step ys s
    simp [runAll, Outcome.andThen, Outcome.unchanged, h]
  | cons a rest ih =>
    simp only [List.cons_append, runAll, Outcome.andThen]
    cases h : (step s a).failure with
    | some e => rfl
    | none =>
      simp only [ih, Outcome.andThen]
      cases (runAll step rest (step s a).state).failure <;> simp [List.append_assoc]

/-- One thing that can be sent. -/
inductive Part
  | text (s : String)
  | image (url : String)
  | attachment (v : Value)
  | buttons (text : String) (choices : List Button)
  | custom (v : Value)
deriving Repr

/-- A part on its way to somebody. -/
structure Sending where
  recipient : String
  part : Part
deriving Repr

/-- The text that stands for an element of a carousel: its title and its subtitle. -/
def elementText? (element : Value) : Option String :=
  let field (key : String) : String := ((element.member? key).bind Value.string?).getD ""
  match field "title", field "subtitle" with
  | "", "" => none
  | title, "" => some title
  | "", subtitle => some subtitle
  | title, subtitle => some (title ++ " : " ++ subtitle)

def elementParts (elements : List Value) : List Part :=
  elements.filterMap fun e => (elementText? e).map .text

namespace Reply

/-- The text or, if there are any, the buttons with it. -/
def promptParts (r : Reply) : List Part :=
  let text := r.text.getD ""
  if r.buttons ≠ [] then [.buttons text r.buttons]
  else if text ≠ "" then [.text text]
  else []

/-- The parts of a reply in the order in which they are sent. -/
def parts (r : Reply) : List Part :=
  r.promptParts ++ r.custom.toList.map .custom ++ r.image.toList.map .image ++
    r.attachment.toList.map .attachment ++ elementParts r.elements

/-- The parts of a reply, addressed to one recipient. -/
def sendings (recipient : String) (r : Reply) : List Sending :=
  r.parts.map (⟨recipient, ·⟩)

end Reply

/-- All that is to be sent in reply to somebody: the parts of the replies that hold anything. -/
def plan (sender : String) (replies : List Reply) : List Sending :=
  (replies.filter (!·.isEmpty)).flatMap fun r => r.sendings (r.recipient.getD sender)

/-- Sends the replies to a message of `sender`. -/
def deliver (send : σ → Sending → Outcome σ ε) (sender : String) (replies : List Reply) (s : σ) :
    Outcome σ ε :=
  runAll send (plan sender replies) s

end SlackBridge.Dialogue
