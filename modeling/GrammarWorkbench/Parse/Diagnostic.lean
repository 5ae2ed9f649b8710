import GrammarWorkbench.Lexeme.Token
import GrammarWorkbench.Source.Position

/-!
# Syntax errors

`GrammarWorkbench.SyntaxError` lists what can be wrong with the syntax of a grammar, with one
wording for each. A diagnostic is such an error at a position, written in the form in which the
parser generator prints its own errors.
-/

namespace GrammarWorkbench

/-- What can be wrong with the syntax of a grammar. -/
inductive SyntaxError where
  /-- Another token stands where this one is needed. -/
  | expected (kind : Token)
  /-- A piece of text is no token. -/
  | invalidSymbol
  /-- A literal is cut off by the end of its line. -/
  | unterminatedString
  | unterminatedStringInAttributes
  | unterminatedStringInAction
  /-- A semantic action is opened inside another one. -/
  | unclosedAction
  /-- No operand of a character set starts here. -/
  | invalidSimpleSet
  /-- No part of a token expression starts here. -/
  | invalidTokenFactor
deriving DecidableEq, Repr

/-- The wording of a syntax error. -/
def SyntaxError.message : SyntaxError → Text
  | expected kind => kind.describe ++ " expected".toList
  | invalidSymbol => "invalid symbol".toList
  | unterminatedString => "string not terminated".toList
  | unterminatedStringInAttributes => "string not terminated in attributes".toList
  | unterminatedStringInAction => "string not terminated in semantic action".toList
  | unclosedAction => "missing end of previous semantic action".toList
  | invalidSimpleSet => "invalid SimSet".toList
  | invalidTokenFactor => "invalid TokenFactor".toList

/-- A message about a position of a grammar. -/
structure Diagnostic where
  position : Position
  message : Text
deriving DecidableEq, Repr

/-- A diagnostic in the form in which the parser generator prints its errors. -/
def Diagnostic.display (d : Diagnostic) : Text :=
  "-- line ".toList ++ Text.ofNat d.position.line ++ " col ".toList ++
    Text.ofNat d.position.column ++ ": ".toList ++ d.message

end GrammarWorkbench
