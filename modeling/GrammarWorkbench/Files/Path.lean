import GrammarWorkbench.Text.Split

/-!
# Paths

A path is a text whose parts are separated by slashes. It starts at the root if it begins with a
slash. Empty parts and parts that are a single dot do not count, except a dot at the very beginning
of a path. Two paths with the same components lead to the same place, but their texts are kept as
they were written.
-/

namespace GrammarWorkbench

/-- A path: where it starts, and the parts after that. -/
structure Path where
  /-- The beginning: a slash, a single dot, or nothing. -/
  head : Text
  /-- The texts between the slashes after the beginning. -/
  parts : List Text
deriving DecidableEq, Repr

namespace Path

/-- Read a path. -/
def ofText : Text → Path
  | '/' :: t => ⟨['/'], Text.splitAt '/' t⟩
  | ['.'] => ⟨['.'], []⟩
  | '.' :: '/' :: t => ⟨['.'], [] :: Text.splitAt '/' t⟩
  | t => ⟨[], Text.splitAt '/' t⟩

/-- The text of a path. -/
def toText (p : Path) : Text :=
  p.head ++ ['/'].intercalate p.parts

/-- Whether a part does not count. -/
def isVoid (part : Text) : Bool :=
  part == [] || part == ['.']

/-- A path without the parts at its end that do not count. -/
def trimEnd (p : Path) : Path :=
  { p with parts := (p.parts.reverse.dropWhile isVoid).reverse }

/-- The beginning of a path and the parts that count. -/
def components (p : Path) : Text × List Text :=
  (p.head, p.parts.filter (!isVoid ·))

/-- The last component, unless it leads upwards. -/
def fileName (p : Path) : Option Text :=
  match p.trimEnd.parts.getLast? with
  | some part => if part = ['.', '.'] then none else some part
  | none => none

/-- The path without its last component. The root and the empty path have no parent. -/
def parent? (p : Path) : Option Path :=
  let p := p.trimEnd
  if p.parts.isEmpty then
    if p.head = ['.'] then some ⟨[], []⟩ else none
  else some ({ p with parts := p.parts.dropLast }).trimEnd

end Path

namespace Text

/-- One path after another: the second alone if it starts at the root. -/
def joinPath (base t : Text) : Text :=
  if t.head? = some '/' then t
  else if base.isEmpty || base.getLast? == some '/' then base ++ t
  else base ++ '/' :: t

/-- The text of the parent of a path. -/
def parentPath? (t : Text) : Option Text :=
  ((Path.ofText t).parent?).map Path.toText

/-- A path with another name at its end. -/
def withFileName (t name : Text) : Text :=
  match (Path.ofText t).fileName with
  | some _ => ((parentPath? t).getD []).joinPath name
  | none => t.joinPath name

end Text

end GrammarWorkbench
