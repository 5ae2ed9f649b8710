import GrammarWorkbench.Text.Basic

/-!
# The tokens of the grammar language

A token is the kind of a piece of grammar text. Keywords and marks have one spelling each
(`GrammarWorkbench.Token.spelling?`); the others are classes of texts: names, numbers, literals,
comments, and `other` for a character that has a meaning in host code only.

`GrammarWorkbench.Token.describe` is the name that a token bears in a syntax error.
-/

namespace GrammarWorkbench

/-- The kinds of pieces of a grammar text. -/
inductive Token where
  /-- The keyword that opens a grammar and precedes its name. -/
  | compilerKw
  | ignoreCaseKw
  | charactersKw
  | tokensKw
  | pragmasKw
  | commentsKw
  | fromKw
  | toKw
  | nestedKw
  | ignoreKw
  | productionsKw
  /-- The keyword that precedes the name at the end of a grammar. -/
  | endKw
  | anyKw
  | weakKw
  | syncKw
  | ifKw
  | contextKw
  /-- A name that is no keyword. -/
  | ident
  | number
  /-- A literal between double quotes. -/
  | string
  /-- A literal that the end of its line cuts off. -/
  | badString
  /-- A literal between single quotes. -/
  | char
  | equal
  | period
  | doublePeriod
  | plus
  | minus
  | bar
  | leftParen
  | rightParen
  | leftBracket
  | rightBracket
  | leftBrace
  | rightBrace
  | less
  | greater
  /-- The mark that opens dotted attributes. -/
  | lessPeriod
  /-- The mark that closes dotted attributes. -/
  | periodGreater
  /-- The mark that opens a semantic action. -/
  | parenPeriod
  /-- The mark that closes a semantic action. -/
  | periodParen
  | comma
  /-- A comment between slash and star marks, which may nest. -/
  | blockComment
  /-- A comment from two slashes to the end of the line. -/
  | lineComment
  /-- Any other single character. -/
  | other
deriving DecidableEq, Repr

namespace Token

/-- The keywords. -/
def keywords : List Token :=
  [compilerKw, ignoreCaseKw, charactersKw, tokensKw, pragmasKw, commentsKw, fromKw, toKw, nestedKw,
   ignoreKw, productionsKw, endKw, anyKw, weakKw, syncKw, ifKw, contextKw]

/-- The one spelling of a keyword or a mark. -/
def spelling? : Token → Option Text
  | compilerKw => "COMPILER".toList
  | ignoreCaseKw => "IGNORECASE".toList
  | charactersKw => "CHARACTERS".toList
  | tokensKw => "TOKENS".toList
  | pragmasKw => "PRAGMAS".toList
  | commentsKw => "COMMENTS".toList
  | fromKw => "FROM".toList
  | toKw => "TO".toList
  | nestedKw => "NESTED".toList
  | ignoreKw => "IGNORE".toList
  | productionsKw => "PRODUCTIONS".toList
  | endKw => "END".toList
  | anyKw => "ANY".toList
  | weakKw => "WEAK".toList
  | syncKw => "SYNC".toList
  | ifKw => "IF".toList
  | contextKw => "CONTEXT".toList
  | equal => "=".toList
  | period => ".".toList
  | doublePeriod => "..".toList
  | plus => "+".toList
  | minus => "-".toList
  | bar => "|".toList
  | leftParen => "(".toList
  | rightParen => ")".toList
  | leftBracket => "[".toList
  | rightBracket => "]".toList
  | leftBrace => "\x7b".toList
  | rightBrace => "\x7d".toList
  | less => "<".toList
  | greater => ">".toList
  | lessPeriod => "<.".toList
  | periodGreater => ".>".toList
  | parenPeriod => "(.".toList
  | periodParen => ".)".toList
  | comma => ",".toList
  | ident | number | string | badString | char | blockComment | lineComment | other => none

/-- The name of a class of texts. -/
def className : Token → Text
  | ident => "ident".toList
  | number => "number".toList
  | string => "string".toList
  | badString => "badString".toList
  | char => "char".toList
  | blockComment | lineComment => "comment".toList
  | _ => "symbol".toList

/-- How a token is named in a syntax error: its spelling in quotes, or the name of its class. -/
def describe (t : Token) : Text :=
  match t.spelling? with
  | some s => '"' :: s ++ ['"']
  | none => t.className

/-- The keyword with a given spelling. -/
def ofKeyword? (word : Text) : Option Token :=
  keywords.find? fun k => k.spelling? == some word

/-- The token of a word: a keyword or a name. -/
def ofWord (word : Text) : Token :=
  (ofKeyword? word).getD ident

/-- Whether a token is a keyword. -/
def isKeyword (t : Token) : Bool :=
  keywords.contains t

/-- The keywords at which parsing can start again after an error. -/
def isSectionKeyword : Token → Bool
  | charactersKw | tokensKw | pragmasKw | commentsKw | ignoreKw | productionsKw | endKw => true
  | _ => false

/-- Whether a token is a comment. -/
def isComment : Token → Bool
  | blockComment | lineComment => true
  | _ => false

/-- The tokens that name a symbol: a name or a literal. -/
def isSymbol : Token → Bool
  | ident | string | char => true
  | _ => false

end Token

end GrammarWorkbench
