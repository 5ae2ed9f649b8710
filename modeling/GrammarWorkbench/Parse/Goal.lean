import GrammarWorkbench.Lexeme.Token
import GrammarWorkbench.Parse.Checkpoint
import GrammarWorkbench.Parse.Diagnostic

/-!
# The syntax of grammars as a table of moves

Parsing keeps a list of **goals**: what has still to be found, in order. The next token decides what
becomes of the first goal, and nothing else does. `GrammarWorkbench.Goal.move` is that table: for a
goal and the next token it says whether the goal is dropped, whether the token is consumed and which
goals take the place of the first one, or which error there is. `GrammarWorkbench.Goal.atEnd` is the
table for the end of the source, and `GrammarWorkbench.Goal.meet` is both of them.

Two ways of consuming are told apart. To **take** a token is to read on in the grammar, where every
piece of text has to be a token; to **skip** one is to read on in host code, where anything goes.

Repetitions are goals that put themselves back. With one exception they do so only where a token is
consumed. The exception is a declaration that fails at its first token: nothing is consumed, and the
repetition comes back behind a recovery. Parsing ends because such a recovery has to consume the
token that the declaration did not (`GrammarWorkbench.Goal.move_eq_spoil` and
`GrammarWorkbench.Goal.move_recovery_badString`).
-/

namespace GrammarWorkbench

/-- The two sections that declare tokens. -/
inductive TokenSection where
  | tokens
  | pragmas
deriving DecidableEq, Repr

/-- What parsing has still to find. -/
inductive Goal where
  /-- Pass a checkpoint. -/
  | announce (c : Checkpoint)
  /-- The token, or else the declaration has failed. -/
  | require (kind : Token)
  /-- The token, or else an error, and parsing goes on. -/
  | request (kind : Token)
  /-- Text before the grammar. -/
  | preamble
  /-- Host code between the name of the grammar and its first section. -/
  | globalCode
  | ignoreCaseOption
  | charactersOption
  /-- The remaining declarations of character sets. -/
  | charSets
  | simpleSet
  /-- The remaining operators and operands of a character set. -/
  | setOperations
  /-- The upper end of a range of characters. -/
  | rangeOption
  | tokensOption (s : TokenSection)
  /-- The remaining declarations of tokens. -/
  | tokenDeclarations (s : TokenSection)
  | definitionOption
  /-- The remaining declarations of comments. -/
  | commentDeclarations
  | nestedOption
  /-- The remaining sets of ignored characters. -/
  | ignoreSets
  | tokenFactor
  /-- The remaining factors of a term of a token expression. -/
  | tokenFactors
  | contextOption
  /-- The remaining alternatives of a token expression. -/
  | tokenAlternatives
  /-- The productions have to start here. -/
  | productionsStart
  /-- Text before the productions, and the productions. -/
  | productionsOption
  /-- The remaining productions. -/
  | productions
  /-- Attributes, and a checkpoint after them. -/
  | attributesOption (after : Checkpoint)
  /-- The rest of attributes, inside so many further angle brackets. -/
  | attributes (depth : Nat)
  /-- The rest of dotted attributes. -/
  | dottedAttributes
  | actionOption
  /-- The rest of a semantic action. -/
  | action
  | resolverOption
  /-- The rest of a condition, inside so many further parentheses. -/
  | condition (depth : Nat)
  /-- The remaining factors of a term of a production. -/
  | factors
  /-- The remaining alternatives of a production. -/
  | alternatives
  /-- A name or a literal in a production, with its attributes. -/
  | symbol
  /-- The end of a declaration. An error inside the declaration drops all goals up to here. -/
  | boundary
  /-- Text after an error, up to a place where parsing can start again. -/
  | recovery
deriving DecidableEq, Repr

/-- The moves that consume nothing and drop the first goal. -/
inductive Still where
  | pass
  /-- Announce a checkpoint. -/
  | tell (c : Checkpoint)
  /-- Report an error and go on. -/
  | note (e : SyntaxError)
  /-- Report an error and give the declaration up. -/
  | fail (e : SyntaxError)
deriving DecidableEq, Repr

/-- What becomes of the first goal. -/
inductive Move where
  /-- Consume nothing. -/
  | still (s : Still)
  /-- Announce a checkpoint if there is one, and take the token. -/
  | take (before : Option Checkpoint) (next : List Goal)
  /-- Skip the token. -/
  | skip (next : List Goal)
  /-- Announce a checkpoint and report an error. Nothing is consumed. -/
  | spoil (before : Checkpoint) (e : SyntaxError) (next : List Goal)
deriving DecidableEq, Repr

namespace Move

/-- Drop the goal. -/
def pass : Move := still .pass

/-- Give the declaration up. -/
def fail (e : SyntaxError) : Move := still (.fail e)

/-- The goals that a move puts in place of the first one. -/
def next : Move → List Goal
  | still _ => []
  | take _ next | skip next | spoil _ _ next => next

@[simp]
theorem next_still (s : Still) : (still s).next = [] := rfl

@[simp]
theorem next_pass : pass.next = [] := rfl

@[simp]
theorem next_fail (e : SyntaxError) : (fail e).next = [] := rfl

@[simp]
theorem next_take (before : Option Checkpoint) (gs : List Goal) : (take before gs).next = gs := rfl

@[simp]
theorem next_skip (gs : List Goal) : (skip gs).next = gs := rfl

@[simp]
theorem next_spoil (before : Checkpoint) (e : SyntaxError) (gs : List Goal) :
    (spoil before e gs).next = gs := rfl

/-- The same move with further goals, unless it drops the goal. -/
def followedBy (m : Move) (more : List Goal) : Move :=
  match m with
  | still s => still s
  | take before next => take before (next ++ more)
  | skip next => skip (next ++ more)
  | spoil before e next => spoil before e (next ++ more)

end Move

/-! ### Brackets -/

/-- The bracket that a token opens. -/
def Token.opens? : Token → Option Brace
  | .leftParen => some .paren
  | .leftBracket => some .bracket
  | .leftBrace => some .brace
  | _ => none

/-- The token that closes a bracket. -/
def Brace.closer : Brace → Token
  | .paren => .rightParen
  | .bracket => .rightBracket
  | .brace => .rightBrace

namespace Goal

/-! ### Phrases: goals that always stand together -/

/-- A character set. -/
def set : List Goal := [simpleSet, setOperations]

/-- A token expression. -/
def tokenExpression : List Goal := [tokenFactor, tokenFactors, contextOption, tokenAlternatives]

/-- The right side of a production. -/
def expression : List Goal := [resolverOption, factors, alternatives]

/-- The rest of a group of a token expression, after its opening bracket. -/
def tokenGroup (kind : Brace) : List Goal :=
  announce (.tokenOpened kind) :: tokenExpression ++
    [require kind.closer, announce (.tokenClosed kind)]

/-- The rest of a group of a production, after its opening bracket. -/
def group (kind : Brace) : List Goal :=
  announce (.groupOpened kind) :: expression ++
    [require kind.closer, announce (.groupClosed kind)]

/-- A whole grammar. -/
def grammar : List Goal :=
  [announce .start, preamble, announce .beforeCompiler, require .compilerKw,
   announce .grammarName, request .ident, announce .afterGrammarName, globalCode,
   ignoreCaseOption, charactersOption, tokensOption .tokens, tokensOption .pragmas,
   commentDeclarations, ignoreSets, productionsStart, productionsOption,
   require .endKw, announce .endKeyword, announce .endName, require .ident,
   announce .afterEndName, require .period, announce .endOfGrammar]

end Goal

/-! ### First tokens -/

namespace TokenSection

/-- The keyword that opens a section. -/
def keyword : TokenSection → Token
  | tokens => .tokensKw
  | pragmas => .pragmasKw

/-- The checkpoint between two declarations of a section. -/
def checkpoint : TokenSection → Checkpoint
  | tokens => .tokensSection
  | pragmas => .pragmasSection

end TokenSection

/-- The tokens that end the global code of a grammar. -/
def Token.startsSection : Token → Bool
  | .ignoreCaseKw | .charactersKw | .tokensKw | .pragmasKw | .commentsKw | .ignoreKw
  | .productionsKw => true
  | _ => false

/-- The tokens with which a factor of a token expression starts. -/
def Token.startsTokenFactor (t : Token) : Bool :=
  t.isSymbol || t == .badString || t.opens?.isSome

/-- The tokens with which a factor of a production starts. -/
def Token.startsFactor (t : Token) : Bool :=
  t.startsTokenFactor || t == .weakKw || t == .parenPeriod || t == .anyKw || t == .syncKw

namespace Goal

/-! ### The table -/

/-- The move of an operand of a character set. -/
def simpleSetMove : Option Token → Move
  | some .ident => .take (some .charSetReference) [announce .afterSimpleSet]
  | some .string | some .anyKw => .take none [announce .afterSimpleSet]
  | some .char => .take none [rangeOption, announce .afterSimpleSet]
  | some .badString => .fail .unterminatedString
  | _ => .fail .invalidSimpleSet

/-- The move of a factor of a token expression. -/
def tokenFactorMove : Option Token → Move
  | some .ident => .take (some .charSetReference) [announce .tokenExpression]
  | some .string | some .char => .take none [announce .tokenExpression]
  | some .leftParen => .take none (tokenGroup .paren)
  | some .leftBracket => .take none (tokenGroup .bracket)
  | some .leftBrace => .take none (tokenGroup .brace)
  | some .badString => .fail .unterminatedString
  | _ => .fail .invalidTokenFactor

/-- The move of a name or a literal in a production. -/
def symbolMove : Option Token → Move
  | some .ident =>
    .take (some .symbolReference) [announce .afterSymbol, attributesOption .afterFactor]
  | some .string | some .char =>
    .take none [announce .afterSymbol, attributesOption .afterFactor]
  | some .badString => .fail .unterminatedString
  | _ => .fail (.expected .ident)

/-- The move of a factor of a production, for a token with which one starts. -/
def factorMove : Option Token → Move
  | some .weakKw => .take none [announce .afterWeak, symbol]
  | some .leftParen => .take none (group .paren)
  | some .leftBracket => .take none (group .bracket)
  | some .leftBrace => .take none (group .brace)
  | some .parenPeriod => .skip [announce .semanticText, action, announce .afterFactor]
  | some .anyKw | some .syncKw => .take none [announce .afterFactor]
  | t => symbolMove t

/-- The move of the declarations of tokens. The name of a declaration may be a literal. -/
def declarationMove (s : TokenSection) : Option Token → Move
  | some .ident | some .string | some .char =>
    .take (some .tokenName)
      [definitionOption, actionOption, boundary, announce s.checkpoint, tokenDeclarations s]
  | some .badString =>
    .spoil .tokenName .unterminatedString
      [recovery, announce s.checkpoint, tokenDeclarations s]
  | _ => .pass

/-- The move inside attributes in angle brackets, which nest. -/
def attributesMove (depth : Nat) : Option Token → Move
  | some .badString => .fail .unterminatedStringInAttributes
  | some .less => .skip [attributes (depth + 1)]
  | some .greater =>
    match depth with
    | 0 => .take none []
    | depth + 1 => .skip [attributes depth]
  | _ => .skip [attributes depth]

/-- The move inside a condition, whose parentheses nest. -/
def conditionMove (depth : Nat) : Option Token → Move
  | some .leftParen => .skip [condition (depth + 1)]
  | some .rightParen =>
    match depth with
    | 0 => .take none []
    | depth + 1 => .skip [condition depth]
  | _ => .skip [condition depth]

/-- The move of an optional part that starts with the given token. -/
def optionMove (kind : Token) (next : List Goal) (t : Option Token) : Move :=
  if t = some kind then .take none next else .pass

/-- **The table**: what becomes of the first goal when the next lexeme has the given token. -/
def move (g : Goal) (t : Option Token) : Move :=
  match g with
  | announce c => .still (.tell c)
  | require kind => if t = some kind then .take none [] else .fail (.expected kind)
  | request kind => if t = some kind then .take none [] else .still (.note (.expected kind))
  | preamble => if t = some .compilerKw then .pass else .skip [preamble]
  | globalCode => if t.any Token.startsSection then .pass else .skip [globalCode]
  | ignoreCaseOption => optionMove .ignoreCaseKw [announce .afterIgnoreCase] t
  | charactersOption => optionMove .charactersKw [announce .charactersSection, charSets] t
  | charSets =>
    if t = some .ident then
      .take (some .charSetName)
        ([announce .charSetAssign, require .equal, announce .setOperand] ++ set ++
          [require .period, boundary, announce .charactersSection, charSets])
    else .pass
  | simpleSet => simpleSetMove t
  | setOperations =>
    if t = some .plus ∨ t = some .minus then
      .take none [announce .setOperand, simpleSet, setOperations]
    else .pass
  | rangeOption => optionMove .doublePeriod [require .char] t
  | tokensOption s => optionMove s.keyword [announce s.checkpoint, tokenDeclarations s] t
  | tokenDeclarations s => declarationMove s t
  | definitionOption =>
    optionMove .equal (announce .tokenExpression :: tokenExpression ++ [require .period]) t
  | commentDeclarations =>
    optionMove .commentsKw
      ([announce .commentsKeyword, require .fromKw, announce .tokenExpression] ++
        tokenExpression ++ [announce .commentsFrom, require .toKw, announce .tokenExpression] ++
        tokenExpression ++ [announce .commentsTo, nestedOption, boundary, commentDeclarations]) t
  | nestedOption => optionMove .nestedKw [announce .afterNested] t
  | ignoreSets =>
    optionMove .ignoreKw
      (announce .setOperand :: set ++ [boundary, announce .ignoreSet, ignoreSets]) t
  | tokenFactor => tokenFactorMove t
  | tokenFactors =>
    if t.any Token.startsTokenFactor then (tokenFactorMove t).followedBy [tokenFactors]
    else .pass
  | contextOption => optionMove .contextKw (require .leftParen :: tokenGroup .paren) t
  | tokenAlternatives => optionMove .bar (announce .tokenExpression :: tokenExpression) t
  | productionsStart =>
    if t = some .productionsKw then .pass else .still (.note (.expected .productionsKw))
  | productionsOption =>
    if t = some .productionsKw then .take none [announce .productionsKeyword, productions]
    else if t = some .endKw then .pass
    else .skip [productionsOption]
  | productions =>
    if t = some .ident then
      .take (some .productionName)
        ([announce .afterProductionName, attributesOption .afterAttributes, actionOption,
          require .equal, announce .expressionStart] ++ expression ++
          [require .period, announce .productionDone, boundary, productions])
    else .pass
  | attributesOption after =>
    match t with
    | some .less => .skip [announce .semanticText, attributes 0, announce after]
    | some .lessPeriod => .skip [announce .semanticText, dottedAttributes, announce after]
    | _ => .pass
  | attributes depth => attributesMove depth t
  | dottedAttributes =>
    match t with
    | some .badString => .fail .unterminatedStringInAttributes
    | some .periodGreater => .take none []
    | _ => .skip [dottedAttributes]
  | actionOption =>
    if t = some .parenPeriod then .skip [announce .semanticText, action] else .pass
  | action =>
    match t with
    | some .periodParen => .take none []
    | some .badString => .fail .unterminatedStringInAction
    | some .parenPeriod => .fail .unclosedAction
    | _ => .skip [action]
  | resolverOption =>
    optionMove .ifKw
      [announce .resolverKeyword, require .leftParen, announce .resolverCondition, condition 0,
       announce .expressionStart] t
  | condition depth => conditionMove depth t
  | factors =>
    if t.any Token.startsFactor then (factorMove t).followedBy [factors] else .pass
  | alternatives => optionMove .bar (announce .alternative :: expression) t
  | symbol => symbolMove t
  | boundary => .pass
  | recovery =>
    if t = some .period then .take none []
    else if t.any Token.isSectionKeyword then .pass
    else .skip [recovery]

/-- What becomes of the first goal at the end of the source. -/
def atEnd : Goal → Move
  | announce c => .still (.tell c)
  | require kind => .fail (.expected kind)
  | request kind => .still (.note (.expected kind))
  | simpleSet => .fail .invalidSimpleSet
  | tokenFactor => .fail .invalidTokenFactor
  | symbol => .fail (.expected .ident)
  | productionsStart => .still (.note (.expected .productionsKw))
  | attributes _ => .fail (.expected .greater)
  | dottedAttributes => .fail (.expected .periodGreater)
  | action => .fail (.expected .periodParen)
  | condition _ => .fail (.expected .rightParen)
  | _ => .pass

/-- What becomes of the first goal at the next lexeme, which has a token or is invalid, or at the
end of the source. -/
def meet (g : Goal) : Option (Option Token) → Move
  | none => g.atEnd
  | some t => g.move t

@[simp]
theorem meet_none (g : Goal) : g.meet none = g.atEnd := rfl

@[simp]
theorem meet_some (g : Goal) (t : Option Token) : g.meet (some t) = g.move t := rfl

/-! ### What consumes nothing -/

/-- **At the end of the source no goal consumes anything**, and none is put back. -/
theorem exists_atEnd_eq_still (g : Goal) : ∃ m, g.atEnd = .still m := by
  cases g <;> exact ⟨_, rfl⟩

theorem tokenFactorMove_ne_spoil (t : Option Token) (c : Checkpoint) (e : SyntaxError)
    (next : List Goal) : tokenFactorMove t ≠ .spoil c e next := by
  unfold tokenFactorMove
  split <;> exact Move.noConfusion

theorem symbolMove_ne_spoil (t : Option Token) (c : Checkpoint) (e : SyntaxError)
    (next : List Goal) : symbolMove t ≠ .spoil c e next := by
  unfold symbolMove
  split <;> exact Move.noConfusion

theorem factorMove_ne_spoil (t : Option Token) (c : Checkpoint) (e : SyntaxError)
    (next : List Goal) : factorMove t ≠ .spoil c e next := by
  unfold factorMove
  split <;> first | exact Move.noConfusion | exact symbolMove_ne_spoil _ c e next

theorem optionMove_ne_spoil (kind : Token) (goals : List Goal) (t : Option Token)
    (c : Checkpoint) (e : SyntaxError) (next : List Goal) :
    optionMove kind goals t ≠ .spoil c e next := by
  unfold optionMove
  split <;> exact Move.noConfusion

theorem followedBy_ne_spoil {m : Move} (h : ∀ c e next, m ≠ .spoil c e next) (more : List Goal)
    (c : Checkpoint) (e : SyntaxError) (next : List Goal) : m.followedBy more ≠ .spoil c e next := by
  cases m with
  | spoil before e' next' => exact absurd rfl (h before e' next')
  | _ => exact Move.noConfusion

/-- **The one move that puts goals back without consuming anything** is that of the declarations of
tokens, where a declaration begins with an unterminated string: a recovery comes first. -/
theorem move_eq_spoil {g : Goal} {t : Option Token} {c : Checkpoint} {e : SyntaxError}
    {next : List Goal} (h : g.move t = .spoil c e next) :
    ∃ s, g = tokenDeclarations s ∧ t = some .badString ∧ c = .tokenName ∧
      e = .unterminatedString ∧ next = [recovery, announce s.checkpoint, tokenDeclarations s] := by
  cases g with
  | tokenDeclarations s =>
    simp only [move, declarationMove] at h
    split at h <;> cases h
    exact ⟨s, rfl, rfl, rfl, rfl, rfl⟩
  | tokenFactor => exact absurd h (tokenFactorMove_ne_spoil t c e next)
  | symbol => exact absurd h (symbolMove_ne_spoil t c e next)
  | tokenFactors =>
    simp only [move] at h
    split at h
    · exact absurd h (followedBy_ne_spoil (tokenFactorMove_ne_spoil t) _ c e next)
    · cases h
  | factors =>
    simp only [move] at h
    split at h
    · exact absurd h (followedBy_ne_spoil (factorMove_ne_spoil t) _ c e next)
    · cases h
  | ignoreCaseOption | charactersOption | rangeOption | tokensOption | definitionOption
  | commentDeclarations | nestedOption | ignoreSets | contextOption | tokenAlternatives
  | resolverOption | alternatives => exact absurd h (optionMove_ne_spoil _ _ t c e next)
  | _ =>
    simp only [move, simpleSetMove, attributesMove, conditionMove] at h
    repeat' split at h
    all_goals cases h

/-- **A recovery consumes an unterminated string.** -/
theorem move_recovery_badString : recovery.move (some .badString) = .skip [recovery] := by
  decide

/-- The greatest number of goals that one move can put in place of the first goal. -/
def width : Nat := 18

theorem length_next_tokenFactorMove_le (t : Option Token) :
    (tokenFactorMove t).next.length ≤ 7 := by
  unfold tokenFactorMove
  split <;> simp [tokenGroup, tokenExpression]

theorem length_next_symbolMove_le (t : Option Token) : (symbolMove t).next.length ≤ 2 := by
  unfold symbolMove
  split <;> simp

theorem length_next_factorMove_le (t : Option Token) : (factorMove t).next.length ≤ 6 := by
  have := length_next_symbolMove_le t
  unfold factorMove
  split <;> simp [group, expression]
  omega

theorem length_next_followedBy_le (m : Move) (more : List Goal) :
    (m.followedBy more).next.length ≤ m.next.length + more.length := by
  cases m <;> simp [Move.followedBy]

theorem length_next_optionMove_le (kind : Token) (next : List Goal) (t : Option Token) :
    (optionMove kind next t).next.length ≤ next.length := by
  unfold optionMove
  split <;> simp

/-- No move puts more than `width` goals in place of the first one. -/
theorem length_next_move_le (g : Goal) (t : Option Token) : (g.move t).next.length ≤ width := by
  cases g with
  | tokenFactor =>
    have := length_next_tokenFactorMove_le t
    simp only [move, width]
    omega
  | tokenFactors =>
    have := length_next_tokenFactorMove_le t
    have := length_next_followedBy_le (tokenFactorMove t) [tokenFactors]
    simp only [move, width]
    split <;> simp at *
    omega
  | factors =>
    have := length_next_factorMove_le t
    have := length_next_followedBy_le (factorMove t) [factors]
    simp only [move, width]
    split <;> simp at *
    omega
  | symbol =>
    have := length_next_symbolMove_le t
    simp only [move, width]
    omega
  | ignoreCaseOption | charactersOption | rangeOption | tokensOption | definitionOption
  | commentDeclarations | nestedOption | ignoreSets | contextOption | tokenAlternatives
  | resolverOption | alternatives =>
    exact Nat.le_trans (length_next_optionMove_le _ _ t)
      (by simp [width, tokenExpression, tokenGroup, expression, set])
  | simpleSet =>
    simp only [move, simpleSetMove]
    split <;> simp [width]
  | tokenDeclarations s =>
    simp only [move, declarationMove]
    split <;> simp [width]
  | attributes depth =>
    simp only [move, attributesMove]
    split <;> simp [width]
    split <;> simp
  | condition depth =>
    simp only [move, conditionMove]
    split <;> simp [width]
    split <;> simp
  | announce | boundary => simp [move]
  | productionsOption | recovery =>
    simp only [move]
    split <;> simp [width]
    split <;> simp
  | require | request | preamble | globalCode | productionsStart | actionOption | charSets
  | setOperations | productions | attributesOption | dottedAttributes | action =>
    simp only [move]
    split <;> simp [width, set, expression]

end Goal

end GrammarWorkbench
