import GrammarWorkbench.Json.Basic
import GrammarWorkbench.Remap

/-!
# Position maps and compiler errors as JSON
-/

namespace GrammarWorkbench

/-- A run: its place in the generated file, its place in the grammar, and its length. -/
def MapRun.toJson (r : MapRun) : Json :=
  .obj [("line", .num r.line), ("column", .num r.column), ("target_line", .num r.targetLine),
    ("target_column", .num r.targetColumn), ("length", .num r.length)]

/-- A map: its grammar and its runs. -/
def PositionMap.toJson (m : PositionMap) : Json :=
  .obj [("grammar", .str m.grammar), ("entries", Json.ofList MapRun.toJson m.runs)]

/-- A place in a grammar. -/
def GrammarLocation.toJson (l : GrammarLocation) : Json :=
  .obj [("grammar", .str l.grammar), ("line", .num l.position.line),
    ("column", .num l.position.column)]

/-- The fields of a compiler error. -/
def CompilerError.fields (e : CompilerError) : List (String × Json) :=
  [("file", .str e.file), ("line", .num e.position.line), ("column", .num e.position.column),
    ("message", .str e.message)]

/-- A compiler error with the place in the grammar where it comes from. -/
def CompilerError.tracedToJson (e : CompilerError) (origin : Option GrammarLocation) : Json :=
  .obj (e.fields ++ [("origin", Json.ofOption GrammarLocation.toJson origin)])

end GrammarWorkbench
