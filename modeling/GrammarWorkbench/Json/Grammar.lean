import GrammarWorkbench.Completion
import GrammarWorkbench.Json.Basic
import GrammarWorkbench.Navigation

/-!
# Grammars as JSON

How symbols, diagnostics and snapshots are reported.
-/

namespace GrammarWorkbench

/-- A symbol: its name, its line and column, and its context if it has one. -/
def Symbol.toJson (s : Symbol) : Json :=
  .obj ([("name", .str s.name), ("line", .num s.position.line),
    ("column", .num s.position.column)] ++ Json.optionalField "context" Json.str s.context)

/-- A diagnostic: its line and column, and its message. -/
def Diagnostic.toJson (d : Diagnostic) : Json :=
  .obj [("line", .num d.position.line), ("column", .num d.position.column),
    ("message", .str d.message)]

/-- A set of constructs: the names of its members. -/
def ConstructSet.toJson (s : ConstructSet) : Json :=
  Json.ofList (fun c => .str c.name) s.toList

/-- The uses of names, one field for each name. -/
def References.toJson (refs : References) : Json :=
  .obj (refs.map fun (name, uses) => (String.ofList name, Json.ofList Symbol.toJson uses))

/-- A snapshot, with all that it knows. -/
def Snapshot.toJson (s : Snapshot) : Json :=
  .obj [("legal_constructs", s.legal.toJson),
    ("grammar_name", Json.ofOption Symbol.toJson s.grammarName),
    ("charsets", Json.ofList Symbol.toJson s.charSets),
    ("tokens", Json.ofList Symbol.toJson s.tokens),
    ("productions", Json.ofList Symbol.toJson s.productions),
    ("references", s.references.toJson),
    ("diagnostics", Json.ofList Diagnostic.toJson s.diagnostics)]

/-- A candidate as the command line reports it. -/
def Candidate.toJson (c : Candidate) : Json :=
  .obj (("label", .str c.label) :: Json.optionalField "detail" Json.str c.detail ++
    Json.optionalField "insert_text" Json.str c.insertText)

/-- What the command line reports about a cursor. -/
def Snapshot.completionReport (s : Snapshot) (options : CompletionOptions) : Json :=
  .obj [("legal_constructs", s.legal.toJson),
    ("candidates", Json.ofList Candidate.toJson (Candidate.ofSnapshot s options)),
    ("diagnostics", Json.ofList Diagnostic.toJson s.diagnostics)]

end GrammarWorkbench
