/-!
# Brackets and the stack of open ones

Groups of a grammar stand in one of three kinds of brackets. A stack records the kinds that are
open, the innermost first. An opening bracket is pushed; a closing bracket pops only its own kind
and leaves the stack alone otherwise.
-/

namespace GrammarWorkbench

/-- The kinds of brackets around a group. -/
inductive Brace where
  | paren
  | bracket
  | brace
deriving DecidableEq, Repr

/-- What happens to the stack of open brackets. -/
inductive BraceEvent where
  | opened (kind : Brace)
  | closed (kind : Brace)
deriving DecidableEq, Repr

/-- The kinds of the open brackets, the innermost first. -/
structure BraceStack where
  kinds : List Brace := []
deriving DecidableEq, Repr

namespace BraceStack

/-- No bracket is open. -/
def empty : BraceStack := ⟨[]⟩

/-- The innermost open bracket. -/
def top (s : BraceStack) : Option Brace :=
  s.kinds.head?

/-- The number of open brackets. -/
def depth (s : BraceStack) : Nat :=
  s.kinds.length

/-- Open a bracket. -/
def push (s : BraceStack) (kind : Brace) : BraceStack :=
  ⟨kind :: s.kinds⟩

/-- Whether the innermost open bracket has the given kind. -/
def closes (s : BraceStack) (kind : Brace) : Bool :=
  s.top == some kind

/-- Close a bracket, if the innermost open one has its kind. -/
def pop (s : BraceStack) (kind : Brace) : BraceStack :=
  if s.closes kind then ⟨s.kinds.tail⟩ else s

/-- The stack after an event. -/
def apply (s : BraceStack) : BraceEvent → BraceStack
  | .opened kind => s.push kind
  | .closed kind => s.pop kind

end BraceStack

end GrammarWorkbench
