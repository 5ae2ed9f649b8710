import GrammarWorkbench.Number.Shortest
import GrammarWorkbench.Text.LowerCase
import GrammarWorkbench.Text.Quoted

/-!
# Setting values

A setting is a truth value, a number, a text, a list or a table, or nothing at all. Tables are
**laid over** one another: a table keeps the entries that the new one does not have, and everything
else is replaced. The names of the new table are taken in lower case.

An empty table changes nothing, not even a value that is no table.
-/

namespace GrammarWorkbench

/-- The value of a setting. -/
inductive Setting where
  /-- No value. Gaps in a list are filled with it. -/
  | unit
  | bool (b : Bool)
  | int (n : Int)
  | float (x : Binary64)
  | text (t : Text)
  | list (items : List Setting)
  | table (entries : List (Text × Setting))

namespace Setting

/-! ### Parts -/

/-- The entries of a table. Any other value has none. -/
def entries : Setting → List (Text × Setting)
  | table entries => entries
  | _ => []

/-- The items of a list. Any other value has none. -/
def items : Setting → List Setting
  | list items => items
  | _ => []

/-- Entries with a new value for a name. A new name comes last. -/
def assign (name : Text) (v : Setting) : List (Text × Setting) → List (Text × Setting)
  | [] => [(name, v)]
  | (k, x) :: rest => if k = name then (k, v) :: rest else (k, x) :: assign name v rest

/-! ### Layers -/

mutual

/-- **A value laid over an old one**, if there is an old one. -/
def layOver (old : Option Setting) : Setting → Setting
  | table entries => layEntries (old.getD (table [])) entries
  | v => v

/-- The entries of a table laid over a value, one after the other. -/
def layEntries (old : Setting) : List (Text × Setting) → Setting
  | [] => old
  | (k, v) :: rest =>
    let name := k.toLower
    layEntries (table (assign name (layOver (old.entries.lookup name) v) old.entries)) rest

end

/-- A value with one more entry laid over it. -/
def put (old : Setting) (name : Text) (v : Setting) : Setting :=
  layEntries old [(name, v)]

/-! ### Wording -/

/-- A truth value as a word. -/
def displayBool (b : Bool) : Text :=
  if b then "true".toList else "false".toList

/-- A floating-point number, with a point if it is finite. -/
def displayPointed (x : Binary64) : Text :=
  match x with
  | .finite .. => if x.display.contains '.' then x.display else x.display ++ ".0".toList
  | _ => x.display

/-- How a value is named in a message. -/
def describe : Setting → Text
  | unit => "unit value".toList
  | bool b => "boolean `".toList ++ displayBool b ++ "`".toList
  | int n => "integer `".toList ++ Text.ofInt n ++ "`".toList
  | float x => "floating point `".toList ++ displayPointed x ++ "`".toList
  | text t => "string ".toList ++ t.quoted
  | list _ => "sequence".toList
  | table _ => "map".toList

/-! ### Conversions -/

/-- The truth value that a value stands for: numbers are true unless they are zero, and some words
are truth values, in capital or small letters. -/
def toBool? : Setting → Option Bool
  | bool b => some b
  | int n => some (n != 0)
  | float x => some !x.isZero
  | text t =>
    let word := String.ofList t.toLower
    if ["1", "true", "on", "yes"].contains word then some true
    else if ["0", "false", "off", "no"].contains word then some false
    else none
  | _ => none

/-- The text that a value stands for: numbers and truth values as they are written. -/
def toText? : Setting → Option Text
  | text t => some t
  | bool b => some (displayBool b)
  | int n => some (Text.ofInt n)
  | float x => some x.display
  | _ => none

end Setting

end GrammarWorkbench
