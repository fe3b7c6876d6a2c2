import SlackBridge.Text.Ascii
import SlackBridge.Text.Blank

/-!
Redeliveries.

A request that is sent again carries the number of the attempt and the reason. Some reasons say
that the first delivery did arrive; such a redelivery is acknowledged and dropped.
-/

namespace SlackBridge.Slack

/-- The header that asks not to deliver a request again. -/
def noRetryHeader : String := "x-slack-no-retry"

/-- A redelivery to drop. -/
structure Redelivery where
  attempt : String
  reason : String
deriving DecidableEq, Repr

/-- The headers that mark a redelivery, in lower case, and the reasons to drop one for. -/
structure RedeliveryFilter where
  reasonHeader : String
  numberHeader : String
  ignored : List String
deriving DecidableEq, Repr

namespace RedeliveryFilter

/-- A filter on headers in any spelling. -/
def ofHeaders (reasonHeader numberHeader : String) (ignored : List String) : RedeliveryFilter :=
  ⟨Text.lowerAscii reasonHeader, Text.lowerAscii numberHeader, ignored⟩

/-- The redelivery that a request is, if it is one to drop. `header` finds a header by its name in
lower case. -/
def inspect (f : RedeliveryFilter) (header : String → Option String) : Option Redelivery :=
  match (header f.numberHeader).bind Text.trimmed? with
  | none => none
  | some attempt =>
    let reason := ((header f.reasonHeader).map Text.trim).getD ""
    if f.ignored.contains reason then some ⟨attempt, reason⟩ else none

end RedeliveryFilter
end SlackBridge.Slack
