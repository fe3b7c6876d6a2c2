import SlackBridge.Settings.Check
import SlackBridge.Settings.Environment
import SlackBridge.Settings.File

/-!
Loading the settings from what surrounds the program: its environment and its files.
-/

namespace SlackBridge.Settings

/-- What is found under a path. -/
inductive Entry
  | file (content : Bytes)
  | unreadable (error : FileError)
deriving DecidableEq, Repr

/-- The environment and the files that a program sees. -/
structure Surroundings where
  env : Environment
  entry? : String → Option Entry

/-- Where the settings are looked for unless a path is given, the first one first. -/
def usualPaths : List String := ["parley.toml", "config/parley.toml"]

namespace Surroundings

/-- The path of the file with the settings, if there is one. -/
def settingsPath? (w : Surroundings) : Option String → Option String
  | some path => if (w.entry? path).isSome then some path else none
  | none => usualPaths.find? fun path => (w.entry? path).isSome

/-- The text under a path, or nothing if there is nothing under it. -/
def fileText? (w : Surroundings) (path : String) : Option (Except FileError String) :=
  (w.entry? path).map fun
    | .unreadable e => .error e
    | .file content =>
      match Text.text? content with
      | some text => .ok text
      | none => .error .notText

/-- What a file says, with the references in it resolved. -/
def fileLayer (w : Surroundings) (path : String) : Except Problem Layer :=
  match w.fileText? path with
  | none => .error (.missingFile path)
  | some (.error e) => .error (.unreadableFile path e)
  | some (.ok text) => do
    let resolved ← interpolate w.env text.toList
    match (Toml.read? (String.ofList resolved)).bind Layer.ofDocument with
    | some layer => return layer
    | none => throw (.malformedFile path)

/-- What the file with the settings says. Without a file nothing is said, unless one is required. -/
def anyFileLayer (w : Surroundings) (path? : Option String) (required : Bool) :
    Except Problem Layer :=
  match w.settingsPath? path? with
  | some path => w.fileLayer path
  | none => if required then .error (.missingFile (path?.getD "parley.toml")) else .ok {}

end Surroundings

/-- How to load the settings. -/
structure Options where
  path : Option String := none
  requireFile : Bool := false
  overrides : Overrides := {}

/-- Loads the settings: the defaults, then the file, the environment and the overrides on top. -/
def load (w : Surroundings) (o : Options) : Except Problem Settings := do
  let file ← w.anyFileLayer o.path o.requireFile
  let env ← Layer.ofEnvironment w.env
  let settings := ofLayers [file, env, o.overrides.layer]
  match settings.check with
  | .ok () => return settings
  | .error v => throw (.refused v)

end SlackBridge.Settings
