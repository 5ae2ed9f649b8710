import GrammarWorkbench.Source.Position

/-!
# Symbols

A symbol is a name at the place where it is declared or used. A use also knows the declaration
inside which it stands. The uses of a grammar are kept by name: `GrammarWorkbench.References` is a
list of names in increasing order, each with its uses in the order of the source.
-/

namespace GrammarWorkbench

/-- A name at the place where it stands. -/
structure Symbol where
  name : Text
  position : Position
  /-- The name of the declaration around a use. -/
  context : Option Text := none
deriving DecidableEq, Repr

/-- The position right after the name. -/
def Symbol.stop (s : Symbol) : Position :=
  ⟨s.position.line, s.position.column + s.name.size⟩

/-- The uses of names: the names in increasing order, each with its uses. -/
abbrev References := List (Text × List Symbol)

namespace References

/-- Add a use of a name after the earlier uses of the same name. -/
def add (name : Text) (use : Symbol) : References → References
  | [] => [(name, [use])]
  | (n, uses) :: rest =>
    if n = name then (n, uses ++ [use]) :: rest
    else if n < name then (n, uses) :: add name use rest
    else (name, [use]) :: (n, uses) :: rest

/-- The uses of a name. -/
def get (name : Text) (refs : References) : List Symbol :=
  (refs.lookup name).getD []

/-- The names that are used, in increasing order. -/
def names (refs : References) : List Text :=
  refs.map Prod.fst

end References

end GrammarWorkbench
