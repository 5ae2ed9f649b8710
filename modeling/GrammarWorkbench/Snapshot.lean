import GrammarWorkbench.Tracker

/-!
# Snapshots of a grammar

A snapshot is all that one request learns about a grammar: the legal constructs at the place of the
request, the declared and the used names, and the diagnostics. A session serves requests one after
the other; what is left over from one of them is no part of the answer to the next.
-/

namespace GrammarWorkbench

/-- What one parse tells about a grammar. -/
structure Snapshot where
  legal : ConstructSet := .empty
  grammarName : Option Symbol := none
  charSets : List Symbol := []
  tokens : List Symbol := []
  productions : List Symbol := []
  references : References := []
  diagnostics : List Diagnostic := []
deriving DecidableEq, Repr

namespace Snapshot

/-- The snapshot that a tracker makes at the end of a parse. -/
def ofTracker (t : Tracker) (diagnostics : List Diagnostic) : Snapshot where
  legal := t.legal
  grammarName := t.grammarName
  charSets := t.charSets
  tokens := t.tokens
  productions := t.productions
  references := t.references
  diagnostics := diagnostics

/-- All declarations by kind: the grammar, character sets, tokens, productions. -/
def declared (s : Snapshot) : List Symbol :=
  s.grammarName.toList ++ s.charSets ++ s.tokens ++ s.productions

/-- Whether a name is declared as anything. -/
def isDeclared (s : Snapshot) (name : Text) : Bool :=
  s.declared.any (·.name == name)

/-- The used names that are declared nowhere, in increasing order. -/
def undeclared (s : Snapshot) : List Text :=
  s.references.names.filter (!s.isDeclared ·)

end Snapshot

/-- What is kept between two requests. -/
structure Session where
  parser : Parser := {}
  tracker : Tracker := {}
deriving DecidableEq, Repr

namespace Session

/-- Serve a request for a source, with the position of the cursor if there is one. -/
def serve (s : Session) (source : Text) (target : Option Position) : Snapshot × Session :=
  let tracker := s.tracker.begin target
  let (parse, parser) := s.parser.parse source
  let tracker := tracker.hearAll parse
  (.ofTracker tracker parse.diagnostics, ⟨parser, tracker⟩)

/-- **Nothing is left of earlier requests**, neither in the answer nor in what is kept after it. -/
theorem serve_eq (s : Session) (source : Text) (target : Option Position) :
    s.serve source target =
      let parse := ParseResult.ofSource source
      let tracker := ({ target := target } : Tracker).hearAll parse
      (.ofTracker tracker parse.diagnostics, ⟨⟨Lexeme.scan source⟩, tracker⟩) := by
  rw [serve, Tracker.begin_eq, Parser.parse_eq]

/-- What is legal at a position, and all symbols. -/
def complete (s : Session) (source : Text) (cursor : Position) : Snapshot × Session :=
  s.serve source (some cursor)

/-- The symbols of a source. -/
def symbols (s : Session) (source : Text) : Snapshot × Session :=
  s.serve source none

end Session

namespace Snapshot

/-- The answer of a fresh session with a cursor. -/
def atCursor (source : Text) (cursor : Position) : Snapshot :=
  (({} : Session).complete source cursor).1

/-- The answer of a fresh session without a cursor. -/
def ofSource (source : Text) : Snapshot :=
  (({} : Session).symbols source).1

end Snapshot

end GrammarWorkbench
