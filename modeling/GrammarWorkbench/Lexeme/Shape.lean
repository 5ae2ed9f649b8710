import GrammarWorkbench.Lexeme.Token
import GrammarWorkbench.Text.Blank

/-!
# The first piece of a text

Every non-empty text begins with exactly one piece: a stretch of layout, a token, or something that
is neither. `GrammarWorkbench.Shape.first` finds the piece that begins with a given character: its
shape, and **how many further characters** belong to it. The longest reading wins.

* layout is white space of ASCII, and pragmas: a dollar sign with the letters and digits after it;
* a literal in double quotes ends with its closing quote, or is cut off by the end of the line;
* a literal in single quotes holds one character, or a backslash and any text up to the next single
  quote;
* a block comment ends with the mark that closes its outermost level.
-/

namespace GrammarWorkbench

/-- What a piece of text is. -/
inductive Shape where
  /-- Text that separates tokens. -/
  | layout
  /-- A token. -/
  | token (kind : Token)
  /-- Text that is no token. -/
  | invalid
deriving DecidableEq, Repr

namespace Shape

/-- The white space between tokens. -/
def isLayout (c : Char) : Bool :=
  c == ' ' || c == '\t' || c == '\r' || c == '\n' || c == '\x0c'

/-- The characters that end a line. -/
def isTerminator (c : Char) : Bool :=
  c == '\r' || c == '\n'

/-- The number of characters at the beginning of a text that satisfy a condition. -/
def run (p : Char → Bool) (t : Text) : Nat :=
  (t.takeWhile p).length

/-- The length of a literal after its opening double quote, and whether a quote closes it. A
backslash takes the next character of the line along. -/
def stringBody : Text → Nat × Bool
  | [] => (0, false)
  | c :: t =>
    if c = '"' then (1, true)
    else if isTerminator c then (0, false)
    else if c = '\\' then
      match t with
      | [] => (0, false)
      | d :: t =>
        if isTerminator d then (0, false)
        else ((stringBody t).1 + 2, (stringBody t).2)
    else ((stringBody t).1 + 1, (stringBody t).2)

/-- The piece that begins with a double quote. -/
def ofString (t : Text) : Shape × Nat :=
  let (length, closed) := stringBody t
  (token (if closed then .string else .badString), length)

/-- The piece that begins with a single quote. -/
def ofChar : Text → Shape × Nat
  | '\\' :: d :: t =>
    if isTerminator d then (invalid, 0)
    else
      let length := run (fun c => c != '\'' && !isTerminator c) t
      if t[length]? = some '\'' then (token .char, length + 3) else (invalid, length + 2)
  | c :: '\'' :: _ =>
    if c = '\'' || c = '\\' || isTerminator c then (invalid, 0) else (token .char, 2)
  | _ => (invalid, 0)

/-- The length of the rest of a block comment inside `depth` further comments, if it is closed. -/
def commentBody (depth : Nat) : Text → Option Nat
  | '/' :: '*' :: t => (commentBody (depth + 1) t).map (· + 2)
  | '*' :: '/' :: t =>
    match depth with
    | 0 => some 2
    | depth + 1 => (commentBody depth t).map (· + 2)
  | _ :: t => (commentBody depth t).map (· + 1)
  | [] => none

/-- The piece that begins with a slash. -/
def ofSlash : Text → Shape × Nat
  | '/' :: t => (token .lineComment, run (fun c => !isTerminator c) t + 1)
  | '*' :: t =>
    match commentBody 0 t with
    | some length => (token .blockComment, length + 1)
    | none => (invalid, t.length + 1)
  | _ => (token .other, 0)

/-- The mark that begins with `c`, which stands before `t`. -/
def ofMark (c : Char) (t : Text) : Option (Token × Nat) :=
  match c, t with
  | '.', '.' :: _ => some (.doublePeriod, 1)
  | '<', '.' :: _ => some (.lessPeriod, 1)
  | '.', '>' :: _ => some (.periodGreater, 1)
  | '(', '.' :: _ => some (.parenPeriod, 1)
  | '.', ')' :: _ => some (.periodParen, 1)
  | '=', _ => some (.equal, 0)
  | '.', _ => some (.period, 0)
  | '+', _ => some (.plus, 0)
  | '-', _ => some (.minus, 0)
  | '|', _ => some (.bar, 0)
  | '(', _ => some (.leftParen, 0)
  | ')', _ => some (.rightParen, 0)
  | '[', _ => some (.leftBracket, 0)
  | ']', _ => some (.rightBracket, 0)
  | '\x7b', _ => some (.leftBrace, 0)
  | '\x7d', _ => some (.rightBrace, 0)
  | '<', _ => some (.less, 0)
  | '>', _ => some (.greater, 0)
  | ',', _ => some (.comma, 0)
  | _, _ => none

/-- **The first piece** of the text `c :: t`: its shape, and how many characters of `t` belong to
it. -/
def first (c : Char) (t : Text) : Shape × Nat :=
  if isLayout c then (layout, 0)
  else if c = '$' then (layout, run (fun c => Text.isLetter c || Text.isDigit c) t)
  else if Text.isLetter c || c = '_' then
    let length := run Text.isWord t
    (token (.ofWord (c :: t.take length)), length)
  else if Text.isDigit c then (token .number, run Text.isDigit t)
  else if c = '"' then ofString t
  else if c = '\'' then ofChar t
  else if c = '/' then ofSlash t
  else
    match ofMark c t with
    | some (kind, length) => (token kind, length)
    | none => if Text.isBlank c then (invalid, 0) else (token .other, 0)

end Shape

end GrammarWorkbench
