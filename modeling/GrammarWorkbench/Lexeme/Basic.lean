import GrammarWorkbench.Lexeme.Shape
import GrammarWorkbench.Source.LineIndex

/-!
# Lexemes

A lexeme is a piece of a source that is not layout, together with the place where it stands. The
lexemes of a source are its pieces from left to right: `GrammarWorkbench.Lexeme.scanAll` gives all
of them, which is what highlighting needs, and `GrammarWorkbench.Lexeme.scan` leaves the comments
out, which is what parsing needs.
-/

namespace GrammarWorkbench

/-- A piece of a source with its place. The token is absent if the piece is no token. -/
structure Lexeme where
  token : Option Token
  /-- The byte offset of the first character. -/
  start : Nat
  text : Text
  /-- The position of the first character. -/
  position : Position
deriving DecidableEq, Repr

namespace Lexeme

/-- The byte offset after the last character. -/
def stop (x : Lexeme) : Nat :=
  x.start + x.text.size

/-- Whether a lexeme is a comment. -/
def isComment (x : Lexeme) : Bool :=
  x.token.any Token.isComment

/-- The name that a lexeme gives to a symbol: its text if it is a name or a literal, and nothing
otherwise. -/
def symbolName (x : Lexeme) : Text :=
  if x.token.any Token.isSymbol then x.text else []

/-- The lexeme that a piece of the given shape makes at an offset. -/
def ofShape? (index : LineIndex) (offset : Nat) (shape : Shape) (text : Text) : Option Lexeme :=
  match shape with
  | .layout => none
  | .token kind => some ⟨some kind, offset, text, index.position offset⟩
  | .invalid => some ⟨none, offset, text, index.position offset⟩

/-- The lexemes of the text that begins at `offset` of a source with the given line index. -/
def scanFrom (index : LineIndex) (offset : Nat) : Text → List Lexeme
  | [] => []
  | c :: t =>
    let (shape, more) := Shape.first c t
    let piece := c :: t.take more
    (ofShape? index offset shape piece).toList ++
      scanFrom index (offset + Text.size piece) (t.drop more)
termination_by t => t.length
decreasing_by
  simp only [List.length_drop, List.length_cons]
  omega

/-- All lexemes of a source, comments included. -/
def scanAll (source : Text) : List Lexeme :=
  scanFrom (.ofText source) 0 source

/-- The lexemes of a source without its comments. -/
def scan (source : Text) : List Lexeme :=
  (scanAll source).filter (!·.isComment)

end Lexeme

end GrammarWorkbench
