import SlackBridge.Server.Webhook

/-!
Tasks: what becomes of messages after their requests have been answered.

Each message is handed to a task of its own, which calls the handler once one of the slots is free.
Tasks go on side by side with each other and with the requests that come in. They end in any order,
or never, and no answer waits for one.
-/

namespace SlackBridge.Server

open Dialogue

/-- The most tasks that may be in the handler at the same time. -/
def slots : Nat := 64

/-- How far a task is. -/
inductive Stage
  | waiting
  | running
  | ended (failure : Option Failure)
deriving DecidableEq, Repr

structure Task where
  job : Job
  stage : Stage
deriving DecidableEq, Repr

/-- A request that has been answered, with what has been logged about it so far and the task of the
message that it brought. -/
structure Served where
  answer : Answer
  log : List Log.Event
  task : Option Task
deriving DecidableEq, Repr

/-- What can happen at the server. A task is known by the place of its request among all requests.
What a handler does between its beginning and its end is up to the handler. -/
inductive Turn
  | request (now : Int) (r : Incoming)
  | begun (place : Nat)
  | said (place : Nat) (event : Log.Event)
  | ended (place : Nat) (failure : Option Failure)

/-- What is logged when a handler ends: the report of its failure, if it failed. -/
def Job.report (j : Job) : Option Failure → List Log.Event
  | none => []
  | some failure =>
    let report := failure.report j.request
    [.handlerFailed report.correlation j.message.sender report.message report.advice]

namespace Served

/-- A request that has just been answered. Its message is handed over to a new task. -/
def ofReaction (reaction : Reaction) : Served :=
  ⟨reaction.answer, reaction.log, reaction.job.map (⟨·, .waiting⟩)⟩

def isRunning (s : Served) : Bool :=
  s.task.any (·.stage == .running)

/-- The task calls the handler. -/
def begins? : Served → Option Served
  | ⟨answer, log, some ⟨job, .waiting⟩⟩ => some ⟨answer, log, some ⟨job, .running⟩⟩
  | _ => none

/-- The handler logs something. -/
def says? (event : Log.Event) : Served → Option Served
  | ⟨answer, log, some ⟨job, .running⟩⟩ => some ⟨answer, log ++ [event], some ⟨job, .running⟩⟩
  | _ => none

/-- The handler returns. A failure goes to the log and nowhere else. -/
def ends? (failure : Option Failure) : Served → Option Served
  | ⟨answer, log, some ⟨job, .running⟩⟩ =>
    some ⟨answer, log ++ job.report failure, some ⟨job, .ended failure⟩⟩
  | _ => none

end Served

/-- Alters the request in the given place. -/
def alter? (place : Nat) (f : Served → Option Served) (all : List Served) :
    Option (List Served) :=
  (all[place]?.bind f).map (all.set place)

/-- The requests after one more turn, if it can happen. `rule` says what to do about a request. -/
def step? (rule : Int → Incoming → Reaction) (all : List Served) : Turn → Option (List Served)
  | .request now r => some (all ++ [.ofReaction (rule now r)])
  | .begun place =>
    if all.countP Served.isRunning < slots then alter? place Served.begins? all else none
  | .said place event => alter? place (Served.says? event) all
  | .ended place failure => alter? place (Served.ends? failure) all

/-- The requests after some turns, if these can happen one after the other. -/
def run? (rule : Int → Incoming → Reaction) (turns : List Turn) : Option (List Served) :=
  turns.foldlM (step? rule) []

/-- What a handler does for a job if it is left alone until it returns. -/
abbrev Handler (σ : Type) := σ → Job → Outcome σ Failure

/-- The turns of a task whose handler is left alone. -/
def turnsOf (place : Nat) (outcome : Outcome σ Failure) : List Turn :=
  .begun place :: (outcome.log.map (.said place) ++ [.ended place outcome.failure])

/-- The turns of requests that come one at a time, each of them after the task of the one before it
has ended. Gives what they leave of the handler's state, too. -/
def oneByOne (rule : Int → Incoming → Reaction) (handler : Handler σ) (place : Nat) (s : σ) :
    List (Int × Incoming) → List Turn × σ
  | [] => ([], s)
  | (now, r) :: rest =>
    match (rule now r).job with
    | none =>
      let later := oneByOne rule handler (place + 1) s rest
      (.request now r :: later.1, later.2)
    | some job =>
      let outcome := handler s job
      let later := oneByOne rule handler (place + 1) outcome.state rest
      (.request now r :: (turnsOf place outcome ++ later.1), later.2)

/-- Serves requests that come one at a time: their answers, and what is logged about each. -/
def serve (rule : Int → Incoming → Reaction) (handler : Handler σ) (s : σ)
    (requests : List (Int × Incoming)) : List (Answer × List Log.Event) × σ :=
  let all := oneByOne rule handler 0 s requests
  (((run? rule all.1).getD []).map fun served => (served.answer, served.log), all.2)

end SlackBridge.Server
