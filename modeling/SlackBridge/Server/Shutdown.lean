import SlackBridge.Log

/-!
Shutting down: once no request is taken any more, the handlers in flight get some time to finish.
-/

namespace SlackBridge.Server

/-- What can happen to a handler. Each handler has a number of its own. -/
inductive HandlerStep
  | dispatched (handler : Nat)
  | finished (handler : Nat)
deriving DecidableEq, Repr

/-- The handlers in flight after one more step. -/
def inFlightStep (running : List Nat) : HandlerStep → List Nat
  | .dispatched handler => handler :: running
  | .finished handler => running.erase handler

/-- The handlers in flight after some steps. -/
def inFlight (steps : List HandlerStep) : List Nat :=
  steps.foldl inFlightStep []

/-- Whether no handler is in flight at some point of some further steps. -/
def comesToRest (running : List Nat) : List HandlerStep → Bool
  | [] => running.isEmpty
  | step :: steps => running.isEmpty || comesToRest (inFlightStep running step) steps

/-- What is logged about the handlers while the server stops: `before` is what happened until the
listener closed, `later` what happened until the time was up. -/
def drain (before later : List HandlerStep) : List Log.Event :=
  let running := inFlight before
  if running.isEmpty then []
  else
    let left := later.foldl inFlightStep running
    .serverStopping (.draining running.length) ::
      (if comesToRest running later then [] else [.serverStopping (.abandoned left.length)])

end SlackBridge.Server
