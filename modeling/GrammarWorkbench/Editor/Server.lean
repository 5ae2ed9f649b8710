import GrammarWorkbench.Address.Basic
import GrammarWorkbench.Completion
import GrammarWorkbench.Editor.Document
import GrammarWorkbench.Navigation

/-!
# The language server

The server keeps the texts of the open documents, by their addresses. Opening or changing a document
publishes the diagnostics of its new text, closing one publishes that there are none. Requests are
answered from the current text of the document; for a document that is not open there is no answer.

All grammars are parsed in one session, which goes on from message to message and from document to
document.
-/

namespace GrammarWorkbench

/-- What an editor tells or asks. -/
inductive EditorMessage where
  | hello
  | initialized
  | shutdown
  | opened (address : Address) (version : Int) (text : Text)
  /-- The new texts, of which the last one counts. -/
  | changed (address : Address) (version : Int) (texts : List Text)
  | closed (address : Address)
  | completion (address : Address) (cursor : EditorPosition)
  | definition (address : Address) (cursor : EditorPosition)
  | references (address : Address) (cursor : EditorPosition) (withDeclaration : Bool)
  | symbols (address : Address)
  | highlighting (address : Address)
deriving DecidableEq, Repr

/-- An error, and the stretch of text that it marks. -/
structure EditorDiagnostic where
  range : EditorRange
  message : Text
deriving DecidableEq, Repr

/-- A declaration in an outline. -/
structure OutlineEntry where
  name : Text
  kind : DeclarationKind
  range : EditorRange
deriving DecidableEq, Repr

/-- What the server answers. -/
inductive EditorAnswer where
  | nothing
  /-- What the server can do. -/
  | capabilities
  | candidates (l : List Candidate)
  | location (address : Address) (range : EditorRange)
  | locations (address : Address) (ranges : List EditorRange)
  /-- An outline below the grammar, or without it. -/
  | outline (root : Option OutlineEntry) (entries : List OutlineEntry)
  | highlights (l : List HighlightDelta)
deriving DecidableEq, Repr

/-- Diagnostics that the server sends without being asked. -/
structure Publication where
  address : Address
  version : Option Int
  diagnostics : List EditorDiagnostic
deriving DecidableEq, Repr

namespace Document

/-- A diagnostic marks the character at its position. -/
def diagnostic (d : Document) (x : Diagnostic) : EditorDiagnostic :=
  ⟨d.range x.position ⟨x.position.line, x.position.column + 1⟩, x.message⟩

/-- The diagnostics of a document, as a snapshot has them. -/
def diagnostics (d : Document) (s : Snapshot) : List EditorDiagnostic :=
  s.diagnostics.map d.diagnostic

/-- A declaration in the outline of a document. -/
def outlineEntry (d : Document) (kind : DeclarationKind) (s : Symbol) : OutlineEntry :=
  ⟨s.name, kind, d.symbolRange s⟩

/-- The outline of a document, as a snapshot has it. -/
def outline (d : Document) (s : Snapshot) : EditorAnswer :=
  let o := Outline.ofSnapshot s
  .outline (o.root.map (d.outlineEntry .grammar)) (o.entries.map fun (k, s) => d.outlineEntry k s)

end Document

/-- The options of the server, the session in which it parses, and the texts of the open
documents. -/
structure Server where
  options : CompletionOptions := {}
  session : Session := {}
  documents : List (Address × Text) := []
deriving DecidableEq, Repr

namespace Server

/-- The text of an open document. -/
def text? (s : Server) (address : Address) : Option Text :=
  s.documents.lookup address

/-- Forget a document. -/
def remove (s : Server) (address : Address) : Server :=
  { s with documents := s.documents.filter (·.1 != address) }

/-- Keep a new text of a document, and publish its diagnostics. -/
def store (s : Server) (address : Address) (version : Int) (t : Text) : Server × List Publication :=
  let kept := s.remove address
  let (snapshot, session) := s.session.symbols t
  ({ kept with session := session, documents := (address, t) :: kept.documents },
    [⟨address, some version, (Document.ofText t).diagnostics snapshot⟩])

/-- The answer to a question about an open document, and the server with the session after it. -/
def ask (s : Server) (address : Address) (answer : Session → Document → EditorAnswer × Session) :
    EditorAnswer × Server :=
  match s.text? address with
  | none => (.nothing, s)
  | some t =>
    let (reply, session) := answer s.session (.ofText t)
    (reply, { s with session := session })

/-- The candidates at a cursor. -/
def completion (options : CompletionOptions) (cursor : EditorPosition) (session : Session)
    (d : Document) : EditorAnswer × Session :=
  let (snapshot, session) := session.complete d.text (d.toSource cursor)
  (.candidates (Candidate.ofSnapshot snapshot options), session)

/-- The declaration of the word at a cursor. -/
def definition (address : Address) (cursor : EditorPosition) (session : Session) (d : Document) :
    EditorAnswer × Session :=
  match Navigation.definitionIn session d.text (d.toSource cursor) with
  | (none, session) => (.nothing, session)
  | (some s, session) => (.location address (d.symbolRange s), session)

/-- The uses of the word at a cursor. -/
def references (address : Address) (cursor : EditorPosition) (withDeclaration : Bool)
    (session : Session) (d : Document) : EditorAnswer × Session :=
  let (found, session) :=
    Navigation.referencesIn session d.text (d.toSource cursor) withDeclaration
  (.locations address (found.map d.symbolRange), session)

/-- The outline. -/
def outline (session : Session) (d : Document) : EditorAnswer × Session :=
  let (snapshot, session) := session.symbols d.text
  (d.outline snapshot, session)

/-- The highlighting, for which nothing is parsed. -/
def highlighting (session : Session) (d : Document) : EditorAnswer × Session :=
  (.highlights (HighlightDelta.ofText d.text), session)

/-- **Handle a message**: the answer, the diagnostics to be sent, and the server afterwards. -/
def handle (s : Server) : EditorMessage → EditorAnswer × List Publication × Server
  | .hello => (.capabilities, [], s)
  | .initialized | .shutdown => (.nothing, [], s)
  | .opened address version t =>
    let (s, published) := s.store address version t
    (.nothing, published, s)
  | .changed address version texts =>
    match texts.getLast? with
    | none => (.nothing, [], s)
    | some t =>
      let (s, published) := s.store address version t
      (.nothing, published, s)
  | .closed address => (.nothing, [⟨address, none, []⟩], s.remove address)
  | .completion address cursor =>
    let (reply, s) := s.ask address (completion s.options cursor)
    (reply, [], s)
  | .definition address cursor =>
    let (reply, s) := s.ask address (definition address cursor)
    (reply, [], s)
  | .references address cursor withDeclaration =>
    let (reply, s) := s.ask address (references address cursor withDeclaration)
    (reply, [], s)
  | .symbols address =>
    let (reply, s) := s.ask address outline
    (reply, [], s)
  | .highlighting address =>
    let (reply, s) := s.ask address highlighting
    (reply, [], s)

end Server

end GrammarWorkbench
