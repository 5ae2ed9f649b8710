import GrammarWorkbench.Lexeme.Basic

/-!
# Highlighting

Every lexeme of a source is given a kind for display, or none. What a lexeme is depends on where it
stands: in grammar notation, or in one of three regions of host code, which are semantic actions,
attributes and dotted attributes. Inside host code only the keywords of the host language are
highlighted, besides literals, numbers and comments, which look the same everywhere.
-/

namespace GrammarWorkbench

/-- The kinds of highlighting. -/
inductive HighlightKind where
  | keyword
  | string
  | number
  | comment
  /-- Marks of the grammar notation, and the marks around host code. -/
  | operator
deriving DecidableEq, Repr

namespace HighlightKind

/-- All kinds, in the order in which editors are told about them. -/
def all : List HighlightKind :=
  [keyword, string, number, comment, operator]

/-- The name by which editors know a kind. -/
def name : HighlightKind → Text
  | keyword => "keyword".toList
  | string => "string".toList
  | number => "number".toList
  | comment => "comment".toList
  | operator => "operator".toList

end HighlightKind

/-- A highlighted stretch of a source, from one byte offset to another. -/
structure Highlight where
  kind : HighlightKind
  start : Nat
  stop : Nat
deriving DecidableEq, Repr

namespace Highlight

/-- Where a lexeme stands. -/
inductive Region where
  | grammar
  /-- In a semantic action. -/
  | action
  /-- In dotted attributes. -/
  | dottedAttributes
  /-- In attributes, inside so many further angle brackets. -/
  | attributes (depth : Nat)
deriving DecidableEq, Repr

/-- The keywords of the host language. -/
def hostKeywords : List String :=
  ["abstract", "as", "base", "bool", "break", "byte", "case", "catch", "char", "checked",
   "class", "const", "continue", "decimal", "default", "delegate", "do", "double", "else",
   "enum", "event", "explicit", "extern", "false", "finally", "fixed", "float", "for",
   "foreach", "goto", "if", "implicit", "in", "int", "interface", "internal", "is", "lock",
   "long", "namespace", "new", "null", "object", "operator", "out", "override", "params",
   "private", "protected", "public", "readonly", "ref", "return", "sbyte", "sealed", "short",
   "sizeof", "stackalloc", "static", "string", "struct", "switch", "this", "throw", "true",
   "try", "typeof", "uint", "ulong", "unchecked", "unsafe", "ushort", "using", "virtual",
   "void", "volatile", "while"]

/-- Whether a word is a keyword of the host language. -/
def isHostKeyword (word : Text) : Bool :=
  hostKeywords.any (·.toList == word)

/-- The kind of a token that looks the same everywhere. -/
def plainKind? : Token → Option HighlightKind
  | .blockComment | .lineComment => some .comment
  | .string | .badString | .char => some .string
  | .number => some .number
  | _ => none

/-- The kind of a token in grammar notation, and the region after it. -/
def inGrammar (t : Token) : Option HighlightKind × Region :=
  match t with
  | .parenPeriod => (some .operator, .action)
  | .lessPeriod => (some .operator, .dottedAttributes)
  | .less => (some .operator, .attributes 0)
  | .ident | .other => (none, .grammar)
  | t => (some (if t.isKeyword then .keyword else .operator), .grammar)

/-- The kind of a word of host code. -/
def inHost (t : Token) (text : Text) : Option HighlightKind :=
  if t = .ident ∧ isHostKeyword text then some .keyword else none

/-- The kind of a token that depends on its region, and the region after it. -/
def inRegion (r : Region) (t : Token) (text : Text) : Option HighlightKind × Region :=
  match r, t with
  | .grammar, t => inGrammar t
  | .action, .periodParen => (some .operator, .grammar)
  | .dottedAttributes, .periodGreater => (some .operator, .grammar)
  | .attributes depth, .less => (none, .attributes (depth + 1))
  | .attributes 0, .greater => (some .operator, .grammar)
  | .attributes (depth + 1), .greater => (none, .attributes depth)
  | r, t => (inHost t text, r)

/-- The kind of a token in a region, and the region after it. -/
def classify (r : Region) (t : Token) (text : Text) : Option HighlightKind × Region :=
  match plainKind? t with
  | some kind => (some kind, r)
  | none => inRegion r t text

/-- The highlighting of lexemes that start in the given region. -/
def ofLexemes (r : Region) : List Lexeme → List Highlight
  | [] => []
  | x :: rest =>
    match x.token with
    | none => ofLexemes r rest
    | some t =>
      let (kind, next) := classify r t x.text
      (kind.map fun kind => ⟨kind, x.start, x.stop⟩).toList ++ ofLexemes next rest

/-- **The highlighting of a source.** -/
def ofSource (source : Text) : List Highlight :=
  ofLexemes .grammar (Lexeme.scanAll source)

end Highlight

end GrammarWorkbench
