import GrammarWorkbench.Lexeme.Token

/-!
# Constructs

A construct is something that can be written next at a place of a grammar. Most constructs stand for
one token, a keyword or a mark; the others are **placeholders** for a name. The order in which they
are declared is the order in which they are listed everywhere.
-/

namespace GrammarWorkbench

/-- What can be written next at a place of a grammar. -/
inductive Construct where
  | compiler
  | ignoreCase
  | characters
  | tokens
  | pragmas
  | comments
  | commentsFrom
  | commentsTo
  | commentsNested
  | context
  | ignore
  /-- The keyword that stands for any symbol. -/
  | anySymbol
  | plus
  | minus
  /-- The mark between the two ends of a range of characters. -/
  | range
  | productions
  | period
  /-- The name of a declared character set. -/
  | existingCharSet
  /-- The name of a declared token. -/
  | existingToken
  | leftParen
  | rightParen
  | leftBracket
  | rightBracket
  | leftBrace
  | rightBrace
  | alternative
  /-- The mark that opens a semantic action. -/
  | action
  /-- The mark that opens attributes. -/
  | attributes
  /-- The mark that opens dotted attributes. -/
  | dottedAttributes
  /-- The name of a declared production. -/
  | existingProduction
  | sync
  | weak
  /-- The keyword of a conflict resolver. -/
  | resolver
  /-- The name of the grammar. -/
  | grammarName
  /-- The keyword at the end of the grammar. -/
  | ending
  /-- A name for a new production. -/
  | productionName
deriving DecidableEq, Repr

namespace Construct

/-- All constructs, in order. -/
def all : List Construct :=
  [compiler, ignoreCase, characters, tokens, pragmas, comments, commentsFrom, commentsTo,
   commentsNested, context, ignore, anySymbol, plus, minus, range, productions, period,
   existingCharSet, existingToken, leftParen, rightParen, leftBracket, rightBracket, leftBrace,
   rightBrace, alternative, action, attributes, dottedAttributes, existingProduction, sync, weak,
   resolver, grammarName, ending, productionName]

/-- The place of a construct in the order. -/
def index (c : Construct) : Nat :=
  all.idxOf c

/-- The token that a construct stands for, unless it is a placeholder. -/
def token? : Construct → Option Token
  | compiler => some .compilerKw
  | ignoreCase => some .ignoreCaseKw
  | characters => some .charactersKw
  | tokens => some .tokensKw
  | pragmas => some .pragmasKw
  | comments => some .commentsKw
  | commentsFrom => some .fromKw
  | commentsTo => some .toKw
  | commentsNested => some .nestedKw
  | context => some .contextKw
  | ignore => some .ignoreKw
  | anySymbol => some .anyKw
  | plus => some .plus
  | minus => some .minus
  | range => some .doublePeriod
  | productions => some .productionsKw
  | period => some .period
  | leftParen => some .leftParen
  | rightParen => some .rightParen
  | leftBracket => some .leftBracket
  | rightBracket => some .rightBracket
  | leftBrace => some .leftBrace
  | rightBrace => some .rightBrace
  | alternative => some .bar
  | action => some .parenPeriod
  | attributes => some .less
  | dottedAttributes => some .lessPeriod
  | sync => some .syncKw
  | weak => some .weakKw
  | resolver => some .ifKw
  | ending => some .endKw
  | existingCharSet | existingToken | existingProduction
  | grammarName | productionName => none

/-- How a construct is written, unless it is a placeholder. -/
def keyword? (c : Construct) : Option Text :=
  c.token?.bind Token.spelling?

/-- Whether a construct stands for a name. -/
def isPlaceholder (c : Construct) : Bool :=
  c.token?.isNone

/-- The name of a construct in reports. -/
def name : Construct → Text
  | compiler => "Compiler".toList
  | ignoreCase => "IgnoreCase".toList
  | characters => "Characters".toList
  | tokens => "Tokens".toList
  | pragmas => "Pragmas".toList
  | comments => "Comments".toList
  | commentsFrom => "CommentsFrom".toList
  | commentsTo => "CommentsTo".toList
  | commentsNested => "CommentsNested".toList
  | context => "Context".toList
  | ignore => "Ignore".toList
  | anySymbol => "Any".toList
  | plus => "Plus".toList
  | minus => "Minus".toList
  | range => "TokenRange".toList
  | productions => "Productions".toList
  | period => "Period".toList
  | existingCharSet => "ExistingCharSet".toList
  | existingToken => "ExistingToken".toList
  | leftParen => "LPar".toList
  | rightParen => "RPar".toList
  | leftBracket => "LBrack".toList
  | rightBracket => "RBrack".toList
  | leftBrace => "LBrace".toList
  | rightBrace => "RBrace".toList
  | alternative => "Alternative".toList
  | action => "SemanticActionStart".toList
  | attributes => "AttributeStart".toList
  | dottedAttributes => "AttributeStartAlt".toList
  | existingProduction => "ExistingProduction".toList
  | sync => "Sync".toList
  | weak => "Weak".toList
  | resolver => "If".toList
  | grammarName => "GrammarName".toList
  | ending => "End".toList
  | productionName => "ProductionName".toList

/-- What a construct is for. -/
def description : Construct → Text
  | compiler => "Start of the grammar, followed by its name".toList
  | ignoreCase => "Make the scanner case insensitive".toList
  | characters => "Character set declarations".toList
  | tokens => "Token declarations".toList
  | pragmas => "Pragma declarations, tokens that may appear anywhere".toList
  | comments => "Comment declaration".toList
  | commentsFrom => "Start delimiter of a comment".toList
  | commentsTo => "End delimiter of a comment".toList
  | commentsNested => "Comments of this kind may nest".toList
  | context => "Trailing context of a token".toList
  | ignore => "Characters the scanner skips".toList
  | anySymbol => "Any character or token not otherwise expected here".toList
  | plus => "Set union".toList
  | minus => "Set difference".toList
  | range => "Character range".toList
  | productions => "Production declarations".toList
  | period => "End of a declaration".toList
  | existingCharSet => "Declared character set".toList
  | existingToken => "Declared token".toList
  | leftParen => "Start of a group".toList
  | rightParen => "End of a group".toList
  | leftBracket => "Start of an option".toList
  | rightBracket => "End of an option".toList
  | leftBrace => "Start of an iteration".toList
  | rightBrace => "End of an iteration".toList
  | alternative => "Alternative".toList
  | action => "Semantic action".toList
  | attributes => "Attributes".toList
  | dottedAttributes => "Attributes that may contain '>'".toList
  | existingProduction => "Declared production".toList
  | sync => "Synchronisation point for error recovery".toList
  | weak => "Weak terminal for error recovery".toList
  | resolver => "Conflict resolver".toList
  | grammarName => "Name of the grammar".toList
  | ending => "End of the grammar".toList
  | productionName => "Name of a new production".toList

/-- A construct as it is written, or the name of a placeholder in angle brackets. -/
def display (c : Construct) : Text :=
  match c.keyword? with
  | some word => word
  | none => '<' :: c.name ++ ['>']

end Construct

end GrammarWorkbench
