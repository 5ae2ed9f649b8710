import GrammarWorkbench.Command.Arguments
import GrammarWorkbench.Json.Grammar
import GrammarWorkbench.Json.Map
import GrammarWorkbench.Log.Generator
import GrammarWorkbench.Settings.Layer

/-!
# Carrying out commands

A command reads files and answers with a JSON value, or with the reason why it cannot. The settings
are read before anything else.

`GrammarWorkbench.Invocation.paths` lists the files that a command reads, as far as the files that
have been read already tell. So the files of a command can be gathered before it is carried out.
-/

namespace GrammarWorkbench

/-- Why a command has no answer. -/
inductive CommandError where
  | settings (e : SettingsError)
  | file (path : Text) (e : FileError)
  | remap (path : Text) (e : MapError)
  | map (path : Text) (e : MapError)
deriving DecidableEq, Repr

namespace CommandError

/-- A path in single quotes, and what is wrong with it. -/
def about (what path cause : Text) : Text :=
  what ++ " '".toList ++ path ++ "': ".toList ++ cause

/-- What every message about settings begins with. -/
def settingsTitle : Text :=
  "Error loading configuration".toList

/-- The wording of an error. -/
def message : CommandError → Text
  | settings e => settingsTitle ++ ": ".toList ++ e.message
  | file path e => about "Error reading file".toList path e.message
  | remap path e => about "Error remapping".toList path e.message
  | map path e => about "Error reading map".toList path e.message

end CommandError

namespace Command

/-- The text of a file. -/
def readText (files : Reader) (path : Text) : Except CommandError Text :=
  match files path with
  | .ok t => .ok t
  | .error e => .error (.file path e)

/-- The directory at which the files of a log start. -/
def baseOf (path : Text) (baseDir : Option Text) : Text :=
  baseDir.getD (path.parentPath?.getD [])

/-- **Carry out a command** with given settings. -/
def run (files : Reader) (s : Settings) : Command → Except CommandError Json
  | complete path line column => do
    let source ← readText files path
    return (Snapshot.atCursor source ⟨line, column⟩).completionReport s.completion
  | symbols path => do
    return (Snapshot.ofSource (← readText files path)).toJson
  | remap path line column =>
    match (({ settings := s.remap } : Remapper).remap files path ⟨line, column⟩).1 with
    | .ok l => .ok (Json.ofOption GrammarLocation.toJson l)
    | .error e => .error (.remap path e)
  | remapLog path baseDir => do
    let errors := Log.compilerLog (← readText files path)
    let remapper : Remapper := { settings := s.remap }
    let found := (remapper.remapAll files (baseOf path baseDir) errors).1
    return Json.ofList (fun (e, origin) => CompilerError.tracedToJson e origin) found
  | generatorLog path => do
    return Json.ofList Diagnostic.toJson (Log.generatorLog (← readText files path))
  | map path =>
    match PositionMap.load files path with
    | .ok m => .ok m.toJson
    | .error e => .error (.map path e)

/-- The files that a command reads, apart from those of its settings. -/
def paths (files : Reader) (s : Settings) : Command → List Text
  | complete path _ _ | symbols path | generatorLog path | map path => [path]
  | remap path _ _ => [({ settings := s.remap } : Remapper).mapPath path]
  | remapLog path baseDir =>
    path ::
      match files path with
      | .error _ => []
      | .ok t =>
        (Log.compilerLog t).map fun e =>
          ({ settings := s.remap } : Remapper).mapPath ((baseOf path baseDir).joinPath e.file)

end Command

namespace Invocation

/-- The layers of the settings. -/
def layers (i : Invocation) : List SettingsLayer :=
  (i.config.map (SettingsLayer.file · true)).toList

/-- The settings of a command. -/
def settings (i : Invocation) (files : Reader) : Except SettingsError Settings :=
  Settings.load files i.layers

/-- **Carry out a command** with its settings. -/
def run (i : Invocation) (files : Reader) : Except CommandError Json :=
  match i.settings files with
  | .error e => .error (.settings e)
  | .ok s => i.command.run files s

/-- The files that a command and its settings are read from. -/
def paths (i : Invocation) (files : Reader) : List Text :=
  let settingsPaths := (i.config.map Settings.candidatePaths).getD []
  match i.settings files with
  | .error _ => settingsPaths
  | .ok s => settingsPaths ++ i.command.paths files s

end Invocation

/-! ### What the program shows -/

/-- What a run of the program comes to. -/
inductive Outcome where
  | answer (j : Json)
  | help
  | version
  | failure (e : CommandError)
  /-- The command line is wrong. -/
  | misuse

namespace Outcome

/-- The outcome of a command line that is not carried out. -/
def ofStop : CommandLineStop → Outcome
  | .help => help
  | .version => version
  | .misuse => misuse

/-- **The outcome of a command line.** -/
def ofWords (files : Reader) (ws : List Text) : Outcome :=
  match Invocation.ofWords ws with
  | .error s => ofStop s
  | .ok i =>
    match i.run files with
    | .ok j => answer j
    | .error e => failure e

/-- The number by which the outcome is known to the caller. -/
def exitCode : Outcome → Nat
  | answer _ | help | version => 0
  | failure _ => 1
  | misuse => 2

/-- The name and the version of the program. -/
def versionText : Text :=
  "coco 0.1.0".toList

/-- How the program is used. -/
def usageText : Text :=
  ("Usage: coco [--config FILE] COMMAND\n\nCommands:\n" ++
   "  complete PATH --line N --column N\n  symbols PATH\n  remap PATH LINE COLUMN\n" ++
   "  remap-log PATH [--base-dir DIR]\n  generator-log PATH\n  map PATH").toList

/-- What is written to standard output. -/
def output : Outcome → Text
  | answer j => j.print ++ ['\n']
  | help => usageText ++ ['\n']
  | version => versionText ++ ['\n']
  | failure _ | misuse => []

/-- What is written to standard error. -/
def complaint : Outcome → Text
  | failure e => e.message ++ ['\n']
  | misuse => usageText ++ ['\n']
  | answer _ | help | version => []

end Outcome

end GrammarWorkbench
