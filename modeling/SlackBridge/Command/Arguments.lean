/-!
The command line: `parley [--config PATH] COMMAND`, with options before and after the command.

An option is written out in full. The file can be named before the command and after it, and then
the name after it counts; within either part nothing may be given twice.
-/

namespace SlackBridge.Command

/-- What to do. -/
inductive Task
  | listSettings
  | doctor (json online : Bool)
  | webhookUrl (base : String) (allowHttp : Bool)
deriving DecidableEq, Repr

/-- What a command line asks for. -/
inductive Invocation
  | run (path : Option String) (task : Task)
  | help
  | misuse
deriving DecidableEq, Repr

/-- What one part of a command line has given so far. -/
structure Given where
  path : Option String := none
  switches : List String := []
  words : List String := []
deriving DecidableEq, Repr

/-- How the reading of a part ends: at a word, with the arguments after it, or at the end of the
line, unless help is asked for or something is wrong. -/
inductive Ending
  | help
  | misuse
  | word (given : Given) (w : String) (rest : List String)
  | finished (given : Given)

/-- Whether an argument is taken for an option. -/
def isOption (arg : String) : Bool :=
  arg.startsWith "-" && arg != "-"

/-- Adds a path, which must not be empty or the second one. -/
def Given.withPath? (g : Given) (path : String) : Option Given :=
  if path = "" ∨ g.path.isSome then none else some { g with path := some path }

/-- Reads options up to the first word. -/
def readOptions (switches : List String) (g : Given) : List String → Ending
  | [] => .finished g
  | arg :: rest =>
    if arg = "--help" ∨ arg.startsWith "-h" then .help
    else if arg = "--config" then
      match rest with
      | path :: rest =>
        if isOption path then .misuse
        else match g.withPath? path with
          | some g => readOptions switches g rest
          | none => .misuse
      | [] => .misuse
    else if arg.startsWith "--config=" then
      match g.withPath? (String.ofList (arg.toList.drop 9)) with
      | some g => readOptions switches g rest
      | none => .misuse
    else if isOption arg then
      if switches.contains arg ∧ ¬ g.switches.contains arg then
        readOptions switches { g with switches := arg :: g.switches } rest
      else .misuse
    else .word g arg rest

/-- The words at the end of a line after `--`, none of which is an option. -/
def afterDashes? (args : List String) : Option (List String × List String) :=
  match args.dropWhile (· ≠ "--") with
  | [] => none
  | _ :: words => some (args.takeWhile (· ≠ "--"), words)

/-- Reads the part after a command that takes up to `room` words. -/
def readPart (switches : List String) : (room : Nat) → Given → List String → Ending
  | room, g, args =>
    let (args, words) := (afterDashes? args).getD (args, [])
    match room, readOptions switches g args with
    | _, .help => .help
    | _, .misuse => .misuse
    | _, .finished g =>
      if words.length ≤ room then .finished { g with words := words } else .misuse
    | 0, .word _ _ _ => .misuse
    | _ + 1, .word g w rest =>
      match readOptions switches g rest with
      | .finished g => if words = [] then .finished { g with words := [w] } else .misuse
      | .word _ _ _ => .misuse
      | ending => ending

/-- The task of a command, from what follows its name. -/
def readTask (path : Option String) (name : String) (rest : List String) : Invocation :=
  let finish (switches : List String) (room : Nat) (task? : Given → Option Task) : Invocation :=
    match readPart switches room {} rest with
    | .help => .help
    | .finished g =>
      match task? g with
      | some task => .run (g.path <|> path) task
      | none => .misuse
    | _ => .misuse
  match name with
  | "config" => finish [] 0 fun _ => some .listSettings
  | "doctor" =>
    finish ["--json", "--online"] 0 fun g =>
      some (.doctor (g.switches.contains "--json") (g.switches.contains "--online"))
  | "webhook-url" =>
    finish ["--allow-http"] 1 fun g =>
      g.words.head?.map (.webhookUrl · (g.switches.contains "--allow-http"))
  | "help" =>
    match rest with
    | [] => .help
    | [topic] =>
      if ["config", "doctor", "webhook-url", "help"].contains topic then .help else .misuse
    | _ => .misuse
  | _ => .misuse

/-- Reads a command line. -/
def Invocation.ofArgs (args : List String) : Invocation :=
  match readOptions [] {} args with
  | .help => .help
  | .word g name rest => readTask g.path name rest
  | _ => .misuse

/-- The text that help gives. -/
def usage : String :=
  "Usage: parley [--config PATH] COMMAND\n\n" ++
    "Commands:\n" ++
    "  config                              list the settings in effect\n" ++
    "  doctor [--json] [--online]          check the settings\n" ++
    "  webhook-url BASE_URL [--allow-http] print the URL to register\n"

end SlackBridge.Command
