import GrammarWorkbench.Editor.Server
import GrammarWorkbench.Json.Basic

/-!
# The answers of the language server as JSON

The encoding is that of the language server protocol. Fields without a value are left out.
-/

namespace GrammarWorkbench

/-- A position: its line and its column. -/
def EditorPosition.toJson (p : EditorPosition) : Json :=
  .obj [("line", .num p.line), ("character", .num p.character)]

/-- A range: where it starts and where it ends. -/
def EditorRange.toJson (r : EditorRange) : Json :=
  .obj [("start", r.start.toJson), ("end", r.stop.toJson)]

/-- A diagnostic is an error of this server. -/
def EditorDiagnostic.toJson (d : EditorDiagnostic) : Json :=
  .obj [("range", d.range.toJson), ("severity", .num 1), ("source", .str "coco".toList),
    ("message", .str d.message)]

/-- Published diagnostics. -/
def Publication.toJson (p : Publication) : Json :=
  .obj ([("uri", .str p.address.display)] ++ Json.optionalField "version" Json.int p.version ++
    [("diagnostics", Json.ofList EditorDiagnostic.toJson p.diagnostics)])

/-- A candidate. -/
def Candidate.toEditorJson (c : Candidate) : Json :=
  .obj ([("label", .str c.label), ("kind", .num c.kind.code)] ++
    Json.optionalField "detail" Json.str c.detail ++
    Json.optionalField "insertText" Json.str c.insertText)

/-- A place in a document. -/
def EditorRange.locationToJson (address : Address) (r : EditorRange) : Json :=
  .obj [("uri", .str address.display), ("range", r.toJson)]

/-- A declaration with those below it. -/
def OutlineEntry.toJson (e : OutlineEntry) (children : List Json) : Json :=
  .obj ([("name", .str e.name), ("detail", .str e.kind.label), ("kind", .num e.kind.code),
    ("range", e.range.toJson), ("selectionRange", e.range.toJson)] ++
    if children.isEmpty then [] else [("children", .arr children)])

/-- The five numbers of a highlighted part, the last of which is for modifiers. -/
def HighlightDelta.numbers (h : HighlightDelta) : List Nat :=
  [h.line, h.start, h.length, h.kind, 0]

namespace EditorAnswer

/-- What the server can do: full texts, completion, outlines, definitions, references, and full
highlighting with the kinds in their order. -/
def serverCapabilities : Json :=
  .obj [("textDocumentSync", .num 1), ("completionProvider", .obj []),
    ("documentSymbolProvider", .bool true), ("definitionProvider", .bool true),
    ("referencesProvider", .bool true),
    ("semanticTokensProvider", .obj [
      ("legend", .obj [
        ("tokenTypes", Json.ofList (fun k => .str k.name) HighlightKind.all),
        ("tokenModifiers", .arr [])]),
      ("full", .bool true)])]

/-- **The encoded answer.** -/
def toJson : EditorAnswer → Json
  | nothing => .null
  | capabilities =>
    .obj [("capabilities", serverCapabilities),
      ("serverInfo", .obj [("name", .str "coco-lsp".toList), ("version", .str "0.1.0".toList)])]
  | candidates l => Json.ofList Candidate.toEditorJson l
  | location address range => range.locationToJson address
  | locations address ranges =>
    Json.ofList (EditorRange.locationToJson address) ranges
  | outline (some root) entries => .arr [root.toJson (entries.map (·.toJson []))]
  | outline none entries => Json.ofList (·.toJson []) entries
  | highlights l => .obj [("data", Json.ofList Json.num (l.flatMap HighlightDelta.numbers))]

end EditorAnswer

end GrammarWorkbench
