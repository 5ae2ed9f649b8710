import GrammarWorkbench.Legal.ConstructSet
import GrammarWorkbench.Parse.Checkpoint

/-!
# What is legal after a checkpoint

For every checkpoint there is a fixed set of constructs that can be written next. Inside token
expressions and productions the innermost open bracket may be closed as well. Nothing is offered
where only free text or a new name can follow.
-/

namespace GrammarWorkbench

/-- The construct that closes a bracket. -/
def Brace.closing : Brace → Construct
  | .paren => .rightParen
  | .bracket => .rightBracket
  | .brace => .rightBrace

namespace Checkpoint

/-- The constructs that follow in a token expression. -/
def inTokenExpression : List Construct :=
  [.existingCharSet, .leftParen, .leftBracket, .leftBrace, .context, .alternative]

/-- The constructs that a term of a production can go on with. -/
def inTerm : List Construct :=
  [.existingToken, .existingProduction, .weak, .leftParen, .leftBracket, .leftBrace, .anySymbol,
   .sync, .action]

/-- The constructs that can be written after a checkpoint, brackets left aside. -/
def follow : Checkpoint → List Construct
  | start | beforeCompiler => [.compiler]
  | afterGrammarName =>
    [.ignoreCase, .characters, .tokens, .pragmas, .comments, .ignore, .productions]
  | afterIgnoreCase => [.characters, .tokens, .pragmas, .comments, .ignore, .productions]
  | afterSimpleSet => [.plus, .minus, .range]
  | setOperand => [.existingCharSet, .anySymbol]
  | charactersSection => [.tokens, .pragmas, .comments, .ignore, .productions]
  | tokenExpression | tokenOpened _ | tokenClosed _ => inTokenExpression
  | tokensSection => [.pragmas, .comments, .ignore, .productions]
  | pragmasSection => [.comments, .ignore, .productions]
  | commentsKeyword => [.commentsFrom]
  | commentsFrom => [.commentsTo]
  | commentsTo => [.commentsNested, .comments, .ignore, .productions]
  | afterNested => [.comments, .ignore, .productions]
  | ignoreSet => [.ignore, .productions]
  | productionsKeyword | productionName => [.productionName]
  | afterProductionName => [.attributes, .dottedAttributes, .action]
  | expressionStart | alternative | groupOpened _ => .resolver :: inTerm
  | resolverKeyword => [.leftParen]
  | groupClosed _ | afterFactor => .alternative :: inTerm
  | afterWeak => [.existingToken]
  | afterSymbol => [.alternative, .attributes, .dottedAttributes] ++ inTerm
  | productionDone => [.productionName, .ending]
  | endKeyword | endName => [.grammarName]
  | afterEndName => [.period]
  | afterAttributes => [.action]
  | charSetReference => [.existingCharSet]
  | symbolReference => [.existingToken, .existingProduction]
  | grammarName | charSetName | charSetAssign | tokenName | resolverCondition | endOfGrammar
  | semanticText => []

/-- The checkpoints inside token expressions and productions, where a group may be closed. -/
def isInsideExpression : Checkpoint → Bool
  | tokenExpression | tokenOpened _ | tokenClosed _ | expressionStart | alternative
  | groupOpened _ | groupClosed _ | afterFactor | afterSymbol => true
  | _ => false

end Checkpoint

/-- **The constructs that are legal** after a checkpoint, given the innermost open bracket. Before
any checkpoint there are none. -/
def ConstructSet.legal (checkpoint : Option Checkpoint) (top : Option Brace) : ConstructSet :=
  match checkpoint with
  | none => empty
  | some c =>
    match c.isInsideExpression, top with
    | true, some kind => (ofList c.follow).insert kind.closing
    | _, _ => ofList c.follow

end GrammarWorkbench
