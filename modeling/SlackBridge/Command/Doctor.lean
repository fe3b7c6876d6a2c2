import SlackBridge.Command.Listing
import SlackBridge.Server.App

/-!
The doctor: six checks of the settings, of which only the last one calls Slack.
-/

namespace SlackBridge.Command

open Json Settings Slack

inductive CheckStatus
  | pass
  | fail
  | skipped
deriving DecidableEq, Repr

def CheckStatus.name : CheckStatus → String
  | .pass => "pass"
  | .fail => "fail"
  | .skipped => "skipped"

/-- How a status is marked in a list. -/
def CheckStatus.mark : CheckStatus → String
  | .pass => "ok"
  | .fail => "fail"
  | .skipped => "skip"

structure Check where
  name : String
  status : CheckStatus
  details : String
deriving DecidableEq, Repr

def Check.skipped (name reason : String) : Check := ⟨name, .skipped, reason⟩

def checkToken (s : Settings) : Check :=
  ⟨"slack_token", .pass,
    "bot token `" ++ redactToken s.slack.token.reveal ++ "` has the expected prefix"⟩

/-- The body that the doctor signs to try out the signing secret. -/
def trialBody : Bytes :=
  Text.utf8 (Value.object [("type", .string "event_callback"),
    ("event", .object [("type", .string "message"), ("text", .string "doctor")])]).compact

/-- Signs a body at the given time in seconds and checks its signature. A time before 1970 counts
as its start; one that no signed word holds wraps around. -/
def checkSigningSecret (s : Settings) (clock : Int) : Check :=
  let verifier := (Inbox.ofSettings s.slack).verifier
  let now := Int.bmod (max clock 0) (Nat.pow 2 64)
  let timestamp := toString now
  let signature := verifier.sign timestamp trialBody
  match verifier.verify (some timestamp) (some signature) trialBody now with
  | .ok () =>
    ⟨"signing_secret", .pass, "signature round trip succeeded (replay window " ++
      toString verifier.maxAge ++ "s)"⟩
  | .error e => ⟨"signing_secret", .fail, "signature self-test failed: " ++ e.message⟩

def checkProxySetting (s : Settings) : Check :=
  ⟨"proxy", .pass, match s.slack.proxy with
    | some proxy => "outbound Slack calls go through http proxy `" ++ proxy ++ "`"
    | none => "no proxy configured, Slack is called directly"⟩

def checkBot (s : Settings) : Check :=
  ⟨"bot_bridge", .pass, match s.bot.endpointUrl with
    | some url => "rest mode, forwarding messages to `" ++ url ++ "`"
    | none => "echo mode, no bot endpoint configured"⟩

/-- Asks Slack whose token it is. -/
def askSlack (s : Settings) (wire : Http.Wire σ) (state : σ) : Except ApiError Identity × σ :=
  match Client.ofSettings s.slack with
  | .error e => (.error e, state)
  | .ok client =>
    let called := client.authTest wire state
    (called.result, called.state)

def checkIdentity : Except ApiError Identity → Check
  | .ok identity =>
    ⟨"slack_auth", .pass, "authenticated as bot user `" ++ identity.userId ++ "` in team `" ++
      identity.team.getD "unknown" ++ "`"⟩
  | .error e => ⟨"slack_auth", .fail, "slack auth.test failed: " ++ e.message⟩

/-- The checks that need no call, for settings that were loaded. -/
def offlineChecks (s : Settings) (clock : Int) : List Check :=
  [⟨"config_validation", .pass, "configuration loaded and validated"⟩, checkToken s,
    checkSigningSecret s clock, checkProxySetting s, checkBot s]

/-- The names of the checks after the first one. -/
def laterChecks : List String :=
  ["slack_token", "signing_secret", "proxy", "bot_bridge", "slack_auth"]

def failedChecks (p : Problem) : List Check :=
  ⟨"config_validation", .fail, p.message⟩ ::
    laterChecks.map (.skipped · "skipped because configuration did not load")

/-- Makes all checks. -/
def examine (w : Surroundings) (path? : Option String) (online : Bool) (clock : Int)
    (wire : Http.Wire σ) (state : σ) : List Check × σ :=
  match load w { path := path?, requireFile := path?.isSome } with
  | .error p => (failedChecks p, state)
  | .ok s =>
    if online then
      let (identity, state) := askSlack s wire state
      (offlineChecks s clock ++ [checkIdentity identity], state)
    else
      (offlineChecks s clock ++
        [.skipped "slack_auth" "pass --online to call Slack `auth.test`"], state)

/-- No check failed. -/
def allPass (checks : List Check) : Bool :=
  checks.all (·.status != .fail)

def summary (checks : List Check) : String :=
  if allPass checks then "doctor: all readiness checks passed"
  else "doctor: one or more readiness checks failed"

def Check.value (c : Check) : Value :=
  .object [("name", .string c.name), ("status", .string c.status.name),
    ("details", .string c.details)]

def reportValue (checks : List Check) : Value :=
  let overall := if allPass checks then CheckStatus.pass else CheckStatus.fail
  .object [("overall_status", .string overall.name), ("summary", .string (summary checks)),
    ("checks", .array (checks.map Check.value))]

def reportText (checks : List Check) : String :=
  "\n".intercalate (summary checks :: checks.map fun c =>
    "- [" ++ c.status.mark ++ "] " ++ c.name ++ ": " ++ c.details)

/-- Makes all checks and reports them, as JSON or as a list. -/
def doctor (w : Surroundings) (path? : Option String) (json online : Bool) (clock : Int)
    (wire : Http.Wire σ) (state : σ) : Outcome × σ :=
  let (checks, state) := examine w path? online clock wire state
  let output := if json then (reportValue checks).pretty else reportText checks
  (⟨if allPass checks then 0 else 1, output⟩, state)

end SlackBridge.Command
