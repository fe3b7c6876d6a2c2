/-!
Failures: why a message could not be handled, and what its author is told.
-/

namespace SlackBridge.Dialogue

/-- Why handling a message failed. -/
inductive Failure
  | invalidPayload (reason : String)
  | unsupportedGranularity (name : String)
  | integration (reason : String)
  | configuration (reason : String)
deriving DecidableEq, Repr

def Failure.message : Failure → String
  | .invalidPayload reason => "invalid payload: " ++ reason
  | .unsupportedGranularity name =>
    "unsupported conversation granularity `" ++ name ++ "` (expected sender|channel|thread)"
  | .integration reason => "integration failure: " ++ reason
  | .configuration reason => "configuration failure: " ++ reason

/-- Who has to act on a failure: the author of the request, the operator of a service it depends
on, or the maintainers. -/
inductive Blame
  | request
  | service
  | internal
deriving DecidableEq, Repr

/-- A failure as it is reported to the outside, with the id of the request it belongs to. -/
structure Report where
  blame : Blame
  detail : String
  correlation : String
deriving DecidableEq, Repr

/-- The report of a failure under the id of its request. -/
def Failure.report (correlation : String) : Failure → Report
  | .integration reason => ⟨.service, reason, correlation⟩
  | .configuration reason => ⟨.internal, reason, correlation⟩
  | f => ⟨.request, f.message, correlation⟩

/-- The id of a failure that belongs to no request. -/
def unassigned : String := "unassigned"

def Report.message (r : Report) : String :=
  match r.blame with
  | .request => "bad request: " ++ r.detail
  | .service => "service unavailable: " ++ r.detail
  | .internal => "internal error: " ++ r.detail

/-- What the user is told. -/
def Report.advice (r : Report) : String :=
  match r.blame with
  | .request => "The request could not be processed. Check inputs and try again."
  | .service => "The service is temporarily unavailable. Please retry shortly."
  | .internal => "An unexpected internal error occurred."

end SlackBridge.Dialogue
