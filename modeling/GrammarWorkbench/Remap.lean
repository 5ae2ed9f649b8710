import GrammarWorkbench.Files.Tree
import GrammarWorkbench.Log.Compiler
import GrammarWorkbench.PositionMap.Format
import GrammarWorkbench.PositionMap.Sums

/-!
# From generated files back to the grammar

An error that a compiler reports in a generated file is traced back to the grammar: the position map
lies next to the generated file, and tells from which place of the grammar the position was copied.

Maps are **cached**. A map that was read once is used until it is forgotten, whatever happens to its
file; a map that could not be read is tried again the next time. Two paths with the same components
share one map.

Tracing is written down for any way of adding (`GrammarWorkbench.Remapper.remapBy`), since the numbers
of a map may be too great for their sums to fit 64 bits. `GrammarWorkbench.Remapper.remap` cuts these
sums to 64 bits.
-/

namespace GrammarWorkbench

/-- Which files are generated, and where their map is. -/
structure RemapSettings where
  /-- The name of the map, in the directory of the generated file. -/
  mapFile : Text := "parser.atgmap".toList
  generatedFiles : List Text := ["parser.cs".toList]
deriving DecidableEq, Repr

/-- Whether a file with this name is generated. Capital and small ASCII letters are the same. -/
def RemapSettings.isGenerated (s : RemapSettings) (name : Text) : Bool :=
  s.generatedFiles.any (·.foldAscii == name.foldAscii)

/-- Why a map cannot be used. -/
inductive MapError where
  | notFound (path : Text)
  | inaccessible (path : Text) (cause : FileError)
  | format (e : MapFormatError)
deriving DecidableEq, Repr

namespace MapError

/-- The error of a file at a path. -/
def ofFile (path : Text) : FileError → MapError
  | .notFound => notFound path
  | cause => inaccessible path cause

/-- The wording of an error. -/
def message : MapError → Text
  | notFound path => "map file not found: ".toList ++ path
  | inaccessible path cause =>
    "failed to access map file ".toList ++ path ++ ": ".toList ++ cause.message
  | format e => e.message

end MapError

/-- Read the map at a path. -/
def PositionMap.load (files : Reader) (path : Text) : Except MapError PositionMap :=
  match files path with
  | .error e => .error (.ofFile path e)
  | .ok text =>
    match PositionMap.parse text with
    | .error e => .error (.format e)
    | .ok m => .ok m

/-- Write a map to a path. -/
def PositionMap.save (m : PositionMap) (files : FileTree) (path : Text) :
    Except MapError FileTree :=
  match files.write path m.render with
  | .error e => .error (.ofFile path e)
  | .ok files => .ok files

/-- A place in a grammar, counted from one. -/
structure GrammarLocation where
  /-- The path of the grammar. -/
  grammar : Text
  position : Position
deriving DecidableEq, Repr

/-- The maps that have been read, by the components of their paths. -/
abbrev MapCache := List ((Text × List Text) × PositionMap)

/-- Settings, and the maps that have been read. -/
structure Remapper where
  settings : RemapSettings := {}
  cache : MapCache := []
deriving DecidableEq, Repr

namespace Remapper

/-- What a path is known by in the cache. -/
def key (path : Text) : Text × List Text :=
  (Path.ofText path).components

/-- The path of the map for a generated file. -/
def mapPath (r : Remapper) (generated : Text) : Text :=
  generated.withFileName r.settings.mapFile

/-- The map at a path: the one in the cache, or the one that is read now and kept. -/
def load (r : Remapper) (files : Reader) (path : Text) : Except MapError PositionMap × Remapper :=
  match r.cache.lookup (key path) with
  | some m => (.ok m, r)
  | none =>
    match PositionMap.load files path with
    | .ok m => (.ok m, { r with cache := (key path, m) :: r.cache })
    | .error e => (.error e, r)

/-- The path of the grammar of a map: names in a map start at the directory of the map. -/
def grammarPath (mapPath grammar : Text) : Text :=
  match mapPath.parentPath? with
  | some dir => dir.joinPath grammar
  | none => grammar

section Sums

variable {μ : Type → Type} [Monad μ] (add : Nat → Nat → μ Nat)

/-- The place of the grammar, counted from one, that a map at a path has for a position, counted from
one as well. -/
def originBy (path : Text) (p : Position) (m : PositionMap) : μ (Option GrammarLocation) := do
  match ← m.lookupBy add (p.line - 1) (p.column - 1) with
  | none => pure none
  | some (line, column) =>
    let line ← add line 1
    let column ← add column 1
    pure (some ⟨grammarPath path m.grammar, ⟨line, column⟩⟩)

/-- Trace a position of a generated file, for any way of adding. -/
def remapBy (r : Remapper) (files : Reader) (generated : Text) (p : Position) :
    μ (Except MapError (Option GrammarLocation) × Remapper) :=
  if p.line = 0 ∨ p.column = 0 ∨
      !((Path.ofText generated).fileName.any r.settings.isGenerated) then pure (.ok none, r)
  else
    let path := r.mapPath generated
    match r.load files path with
    | (.error e, r) => pure (.error e, r)
    | (.ok m, r) => do
      let origin ← originBy add path p m
      pure (.ok origin, r)

/-- Trace the errors of a compiler, for any way of adding. -/
def remapAllBy (r : Remapper) (files : Reader) (base : Text) :
    List CompilerError → μ (List (CompilerError × Option GrammarLocation) × Remapper)
  | [] => pure ([], r)
  | e :: rest => do
    let (origin, r) ← r.remapBy add files (base.joinPath e.file) e.position
    let (more, r) ← r.remapAllBy files base rest
    pure ((e, origin.toOption.join) :: more, r)

end Sums

/-- **Trace a position** of a generated file, counted from one, back to the grammar. There is no
answer if the file is not generated or the position was not copied. -/
def remap (r : Remapper) (files : Reader) (generated : Text) (p : Position) :
    Except MapError (Option GrammarLocation) × Remapper :=
  Id.run (r.remapBy Sum64.wrapping files generated p)

/-- Trace the errors of a compiler back, one after the other. Their files start at `base`. An error
without an answer stays where it is. -/
def remapAll (r : Remapper) (files : Reader) (base : Text) (errors : List CompilerError) :
    List (CompilerError × Option GrammarLocation) × Remapper :=
  Id.run (r.remapAllBy Sum64.wrapping files base errors)

/-- Forget the map at a path. -/
def invalidate (r : Remapper) (path : Text) : Remapper :=
  { r with cache := r.cache.filter (·.1 != key path) }

/-- Forget all maps. -/
def clear (r : Remapper) : Remapper :=
  { r with cache := [] }

end Remapper

end GrammarWorkbench
