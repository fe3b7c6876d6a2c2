import SlackBridge.Json.Printer

/-!
What a command comes to: an exit code and a text.
-/

namespace SlackBridge.Command

open Json

structure Outcome where
  exitCode : Nat
  output : String
deriving DecidableEq, Repr

/-- The report of a command on one line. -/
def reportLine (command status : String) (errorClass : Option String) (message : String) :
    String :=
  (Value.object [("command", .string command), ("status", .string status),
    ("error_class", .ofText? errorClass), ("message", .string message)]).compact

namespace Outcome

def success (command message : String) : Outcome :=
  ⟨0, reportLine command "ok" none message⟩

def failure (command errorClass message : String) : Outcome :=
  ⟨1, reportLine command "error" (some errorClass) message⟩

end Outcome
end SlackBridge.Command
