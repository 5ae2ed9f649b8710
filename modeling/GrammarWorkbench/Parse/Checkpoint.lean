import GrammarWorkbench.Brace
import GrammarWorkbench.Text.Basic

/-!
# Checkpoints

A checkpoint is a place in the syntax of grammars that parsing announces when it comes past. Each
has a fixed number and a fixed name. At some of them the next token names something: a
**declaration** checkpoint stands before the name that it declares, a **reference** checkpoint
before the name that it uses. Others are passed right after a bracket.
-/

namespace GrammarWorkbench

/-- What a name is declared as. -/
inductive DeclarationKind where
  | grammar
  | charSet
  | token
  | production
deriving DecidableEq, Repr

/-- The places in the syntax that parsing announces. -/
inductive Checkpoint where
  | start
  | beforeCompiler
  | grammarName
  | afterGrammarName
  | afterIgnoreCase
  | charSetName
  | charSetAssign
  | afterSimpleSet
  | setOperand
  | charactersSection
  | tokenName
  | tokenExpression
  /-- After a bracket that opens a group of a token expression. -/
  | tokenOpened (kind : Brace)
  /-- After a bracket that closes a group of a token expression. -/
  | tokenClosed (kind : Brace)
  | tokensSection
  | pragmasSection
  | commentsKeyword
  | commentsFrom
  | commentsTo
  | ignoreSet
  | productionsKeyword
  | productionName
  | afterProductionName
  | expressionStart
  | resolverKeyword
  | alternative
  /-- After a bracket that opens a group of a production. -/
  | groupOpened (kind : Brace)
  /-- After a bracket that closes a group of a production. -/
  | groupClosed (kind : Brace)
  | afterFactor
  | afterWeak
  | afterSymbol
  | resolverCondition
  | productionDone
  | endKeyword
  | endName
  | afterEndName
  | afterAttributes
  | endOfGrammar
  | semanticText
  | charSetReference
  | symbolReference
  | afterNested
deriving DecidableEq, Repr

namespace Checkpoint

/-- All checkpoints with their names, in the order of their numbers. -/
def named : List (Checkpoint × String) :=
  [(start, "Start"), (beforeCompiler, "BeforeCompiler"), (grammarName, "GrammarName"),
   (afterGrammarName, "AfterGrammarName"), (afterIgnoreCase, "AfterIgnoreCase"),
   (charSetName, "CharSetName"), (charSetAssign, "CharSetAssign"),
   (afterSimpleSet, "AfterSimpleSet"), (setOperand, "SetOperand"),
   (charactersSection, "CharactersSection"), (tokenName, "TokenName"),
   (tokenExpression, "TokenExpression"), (tokenOpened .paren, "TokenLPar"),
   (tokenClosed .paren, "TokenRPar"), (tokenOpened .bracket, "TokenLBrack"),
   (tokenClosed .bracket, "TokenRBrack"), (tokenOpened .brace, "TokenLBrace"),
   (tokenClosed .brace, "TokenRBrace"), (tokensSection, "TokensSection"),
   (pragmasSection, "PragmasSection"), (commentsKeyword, "CommentsKeyword"),
   (commentsFrom, "CommentsFrom"), (commentsTo, "CommentsTo"), (ignoreSet, "IgnoreSet"),
   (productionsKeyword, "ProductionsKeyword"), (productionName, "ProductionName"),
   (afterProductionName, "AfterProductionName"), (expressionStart, "ExpressionStart"),
   (resolverKeyword, "ResolverKeyword"), (alternative, "Alternative"),
   (groupOpened .paren, "ProductionLPar"), (groupOpened .bracket, "ProductionLBrack"),
   (groupOpened .brace, "ProductionLBrace"), (groupClosed .paren, "ProductionRPar"),
   (groupClosed .bracket, "ProductionRBrack"), (groupClosed .brace, "ProductionRBrace"),
   (afterFactor, "AfterFactor"), (afterWeak, "AfterWeak"), (afterSymbol, "AfterSymbol"),
   (resolverCondition, "ResolverCondition"), (productionDone, "ProductionDone"),
   (endKeyword, "EndKeyword"), (endName, "EndName"), (afterEndName, "AfterEndName"),
   (afterAttributes, "AfterAttributes"), (endOfGrammar, "EndOfGrammar"),
   (semanticText, "SemanticText"), (charSetReference, "CharSetReference"),
   (symbolReference, "SymbolReference"), (afterNested, "AfterNested")]

/-- All checkpoints in the order of their numbers. -/
def all : List Checkpoint :=
  named.map Prod.fst

/-- The number of a checkpoint. -/
def id (c : Checkpoint) : Nat :=
  all.idxOf c

/-- The checkpoint with a given number. -/
def ofId? (n : Nat) : Option Checkpoint :=
  all[n]?

/-- The name and the number of a checkpoint. -/
def display (c : Checkpoint) : Text :=
  match named.find? (·.1 == c) with
  | some (_, name) => name.toList ++ '(' :: Text.ofNat c.id ++ [')']
  | none => []

/-- What the next name is declared as. -/
def declaration? : Checkpoint → Option DeclarationKind
  | grammarName => some .grammar
  | charSetName => some .charSet
  | tokenName => some .token
  | productionName => some .production
  | _ => none

/-- Whether the next name is a use of something. -/
def isReference : Checkpoint → Bool
  | charSetReference | symbolReference | endName => true
  | _ => false

/-- What a checkpoint does to the stack of open brackets. -/
def braceEvent? : Checkpoint → Option BraceEvent
  | tokenOpened kind | groupOpened kind => some (.opened kind)
  | tokenClosed kind | groupClosed kind => some (.closed kind)
  | _ => none

end Checkpoint

end GrammarWorkbench
