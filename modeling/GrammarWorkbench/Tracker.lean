import GrammarWorkbench.Legal.Table
import GrammarWorkbench.Parse.Notification
import GrammarWorkbench.Parse.Run
import GrammarWorkbench.Symbol

/-!
# What a parse tells about a grammar

A tracker listens to the notifications of one parse. It collects the declared and the used names,
and, if there is a **target** position, the last checkpoint before the target and the brackets that
are open there. From the last two follow the constructs that are legal at the target.

A tracker stops listening at the first syntax error. An error before the target makes the last
checkpoint void: where the text does not parse up to the target, nothing can be said about what
comes next.
-/

namespace GrammarWorkbench

/-- What is known from the notifications so far. -/
structure Tracker where
  target : Option Position := none
  /-- The last checkpoint before the target. -/
  last : Option Checkpoint := none
  /-- The brackets that are open before the target. -/
  braces : BraceStack := .empty
  /-- The name of the declaration at hand. -/
  context : Option Text := none
  grammarName : Option Symbol := none
  charSets : List Symbol := []
  tokens : List Symbol := []
  productions : List Symbol := []
  references : References := []
deriving DecidableEq, Repr

namespace Tracker

/-- The tracker for a new parse. -/
def begin (t : Tracker) (target : Option Position) : Tracker :=
  { t with
    target := target
    last := none
    braces := .empty
    context := none
    grammarName := none
    charSets := []
    tokens := []
    productions := []
    references := [] }

/-- **Nothing is left of the earlier parse.** -/
theorem begin_eq (t : Tracker) (target : Option Position) : t.begin target = { target := target } :=
  rfl

/-- Take note of a declaration. -/
def declare (t : Tracker) (kind : DeclarationKind) (s : Symbol) : Tracker :=
  let t := { t with context := some s.name }
  match kind with
  | .grammar => { t with grammarName := some s }
  | .charSet => { t with charSets := t.charSets ++ [s] }
  | .token => { t with tokens := t.tokens ++ [s] }
  | .production => { t with productions := t.productions ++ [s] }

/-- Take note of the name at a declaration or a use. -/
def collect (t : Tracker) (n : Notification) : Tracker :=
  match n.lookahead with
  | none => t
  | some x =>
    if n.name = [] then t
    else
      match n.checkpoint.declaration? with
      | some kind => t.declare kind ⟨n.name, x.position, none⟩
      | none =>
        if n.checkpoint.isReference then
          { t with references := t.references.add n.name ⟨n.name, x.position, t.context⟩ }
        else t

/-- Take note of the checkpoint, if the last consumed lexeme stands before the target. -/
def follow (t : Tracker) (n : Notification) : Tracker :=
  match t.target with
  | none => t
  | some target =>
    if n.current.isBefore target then
      { t with
        last := some n.checkpoint
        braces := (n.checkpoint.braceEvent?.map t.braces.apply).getD t.braces }
    else t

/-- Forget the last checkpoint if there is an error before the target. -/
def discard (t : Tracker) (firstError : Option Position) : Tracker :=
  match firstError, t.target with
  | some e, some target => if e.isBefore target then { t with last := none } else t
  | _, _ => t

/-- Hear a notification. -/
def hear (t : Tracker) (n : Notification) : Tracker :=
  if n.errorCount = 0 then (t.collect n).follow n else t.discard n.firstError

/-- Hear the end of the parse, with its diagnostics. -/
def finish (t : Tracker) (diagnostics : List Diagnostic) : Tracker :=
  t.discard (diagnostics.head?.map Diagnostic.position)

/-- The constructs that are legal at the target. -/
def legal (t : Tracker) : ConstructSet :=
  .legal t.last t.braces.top

/-- Hear a whole parse. -/
def hearAll (t : Tracker) (r : ParseResult) : Tracker :=
  (r.notifications.foldl hear t).finish r.diagnostics

end Tracker

end GrammarWorkbench
