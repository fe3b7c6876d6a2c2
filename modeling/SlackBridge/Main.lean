import SlackBridge.Command.Run

/-!
The command line program. It sees the files with the settings and the variables that they can come
from. It opens no connections, so every request counts as refused.
-/

namespace SlackBridge

open Settings

/-- What is found under a path. -/
def lookUp (path : String) : IO (Option Entry) := do
  try
    return some (.file (← IO.FS.readBinFile path).toList)
  catch
    | .noFileOrDirectory .. => return none
    | .permissionDenied .. => return some (.unreadable .denied)
    | _ => return some (.unreadable .isDirectory)

/-- The given files and all the variables that matter to them. -/
def surroundings (paths : List String) : IO Surroundings := do
  let entries ← paths.mapM fun path => return (path, ← lookUp path)
  let referred := entries.flatMap fun
    | (_, some (.file content)) => referredNames (Text.lossyText content)
    | _ => []
  let names := Command.rows.flatMap (·.variableNames) ++ referred
  let values ← names.mapM fun name => return (name, ← IO.getEnv name)
  return ⟨fun name => (values.lookup name).join, fun path => (entries.lookup path).join⟩

end SlackBridge

def main (args : List String) : IO UInt32 := do
  let named := match SlackBridge.Command.Invocation.ofArgs args with
    | .run (some path) _ => [path]
    | _ => []
  let w ← SlackBridge.surroundings (named ++ SlackBridge.Settings.usualPaths)
  let clock : Int := (← IO.monoMsNow) / 1000
  let refuse : SlackBridge.Http.Wire Unit := fun s _ => (.refused, s)
  let (printed, ()) := SlackBridge.Command.run args w clock refuse ()
  IO.print printed.output
  IO.eprint printed.errors
  return .ofNat printed.exitCode
