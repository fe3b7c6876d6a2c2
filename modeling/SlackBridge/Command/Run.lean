import SlackBridge.Command.Arguments
import SlackBridge.Command.Doctor
import SlackBridge.Command.WebhookUrl

/-!
Running a command line: what is printed and how the program exits.
-/

namespace SlackBridge.Command

open Settings

/-- What a program prints and exits with. -/
structure Printed where
  exitCode : Nat
  output : String
  errors : String
deriving DecidableEq, Repr

/-- The output of a command, ended by a line break. -/
def Outcome.printed (o : Outcome) : Printed := ⟨o.exitCode, o.output ++ "\n", ""⟩

/-- Carries out a task. `clock` is the time in seconds. -/
def perform (w : Surroundings) (path? : Option String) (clock : Int) (wire : Http.Wire σ)
    (state : σ) : Task → Outcome × σ
  | .listSettings => (listSettings w path?, state)
  | .doctor json online => doctor w path? json online clock wire state
  | .webhookUrl base allowHttp => (printWebhookUrl base allowHttp, state)

/-- Runs a command line. One that makes no sense prints nothing but an error. -/
def run (args : List String) (w : Surroundings) (clock : Int) (wire : Http.Wire σ) (state : σ) :
    Printed × σ :=
  match Invocation.ofArgs args with
  | .help => (⟨0, usage, ""⟩, state)
  | .misuse => (⟨2, "", "error: invalid command line\n\n" ++ usage⟩, state)
  | .run path? task =>
    let (outcome, state) := perform w path? clock wire state task
    (outcome.printed, state)

end SlackBridge.Command
