import GrammarWorkbench.Command.Run

/-!
# The program

The files of a command are read first, and the command is then carried out on what was read.
-/

namespace GrammarWorkbench.Main

/-- Try to read the text of a file. A directory can be opened, and is refused without its name when
it is read. -/
def readPath (path : Text) : IO (Except FileError Text) := do
  try
    let bytes ← IO.FS.readBinFile (String.ofList path)
    return match String.fromUTF8? bytes with
      | some s => .ok s.toList
      | none => .error .notText
  catch e =>
    return .error (match e with
      | .inappropriateType none .. => .isDirectory
      | .inappropriateType .. => .notDirectory
      | .invalidArgument _ code _ => if code = 22 then .nullInName else .nameTooLong
      | _ => .notFound)

/-- What has been read so far. -/
abbrev Gathered := List (Text × Except FileError Text)

/-- The files that have been read so far. Any other file is taken to be missing. -/
def Gathered.reader (g : Gathered) : Reader := fun path =>
  (g.lookup path).getD (.error .notFound)

/-- Read the files that are not known yet. -/
def gather (g : Gathered) : List Text → IO Gathered
  | [] => return g
  | path :: rest => do
    if (g.lookup path).isSome then gather g rest
    else gather ((path, ← readPath path) :: g) rest

/-- Read the files of a command: those of the settings, then its own, then those that its own
name. -/
def gatherAll (i : Invocation) : IO Gathered := do
  let g ← gather [] (i.paths (Gathered.reader []))
  let g ← gather g (i.paths g.reader)
  gather g (i.paths g.reader)

/-- The files that a command line needs. -/
def filesFor (ws : List Text) : IO Reader := do
  match Invocation.ofWords ws with
  | .error _ => return Gathered.reader []
  | .ok i => return (← gatherAll i).reader

end GrammarWorkbench.Main

open GrammarWorkbench in
/-- Read the command line, carry it out, and show the outcome. -/
def main (args : List String) : IO UInt32 := do
  let ws := args.map String.toList
  let outcome := Outcome.ofWords (← Main.filesFor ws) ws
  (← IO.getStdout).putStr (String.ofList outcome.output)
  (← IO.getStderr).putStr (String.ofList outcome.complaint)
  return outcome.exitCode.toUInt32
