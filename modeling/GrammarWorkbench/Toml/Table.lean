import GrammarWorkbench.Toml.Value

/-!
# Tables of a TOML file

While a file is read its tables are built up bit by bit, and each of them remembers **how it came
about**, since that decides who may add to it:

* a table that was declared by a header takes entries below that header only;
* a table that is only implied by the header of a table inside it can still be declared;
* a table that came about by a key with points takes more entries by such keys, and cannot be
  declared.

No name is given a value twice.
-/

namespace GrammarWorkbench.Toml

/-- How a table came about. -/
inductive Origin where
  | declared
  /-- By the header of a table inside it. -/
  | implied
  /-- By a key with points. -/
  | dotted
deriving DecidableEq, Repr

/-- What a name stands for. -/
inductive Node where
  | value (v : Value)
  | table (origin : Origin) (entries : List (Text × Node))
  /-- A list of tables, each of which was declared by a header. -/
  | tables (items : List (List (Text × Node)))

/-- Names, and what they stand for. -/
abbrev Nodes := List (Text × Node)

namespace Nodes

/-- Entries with something new for a name. A new name comes last. -/
def assign (name : Text) (n : Node) : Nodes → Nodes
  | [] => [(name, n)]
  | (k, x) :: rest => if k = name then (k, n) :: rest else (k, x) :: assign name n rest

/-- Change the table to which a path leads. A missing table on the way gets the origin `made`. The
last one counts of a list of tables. A path of a key with points does not lead through declared
tables. -/
def change (made : Origin) (f : Origin → Nodes → Option Nodes) (origin : Origin) (here : Nodes) :
    List Text → Option Nodes
  | [] => f origin here
  | name :: path =>
    match here.lookup name with
    | none => (change made f made [] path).map fun t => assign name (.table made t) here
    | some (.value _) => none
    | some (.tables items) =>
      (items.getLast?.bind fun last => change made f .declared last path).map fun t =>
        assign name (.tables (items.dropLast ++ [t])) here
    | some (.table old entries) =>
      if made = .dotted ∧ old = .declared then none
      else (change made f old entries path).map fun t => assign name (.table old t) here

/-- Add an entry to the table at hand. -/
def addHere (name : Text) (v : Value) (here : Nodes) : Option Nodes :=
  if (here.lookup name).isSome then none else some (assign name (.value v) here)

/-- **Add an entry** by a key: the names before the last one, and the last one. The names before the
last one lead through tables of keys with points only. -/
def add (path : List Text) (name : Text) (v : Value) (here : Nodes) : Option Nodes :=
  match path with
  | [] => addHere name v here
  | path =>
    change .dotted (fun origin t => if origin = .dotted then addHere name v t else none)
      .declared here path

/-- **Declare a table.** It comes last, also if it was implied before. -/
def declare (path : List Text) (name : Text) (root : Nodes) : Option Nodes :=
  change .implied (fun _ here =>
      match here.lookup name with
      | none => some (assign name (.table .declared []) here)
      | some (.table .implied entries) =>
        some (here.filter (·.1 != name) ++ [(name, .table .declared entries)])
      | _ => none)
    .declared root path

/-- **Declare one more table of a list.** -/
def declareItem (path : List Text) (name : Text) (root : Nodes) : Option Nodes :=
  change .implied (fun _ here =>
      match here.lookup name with
      | none => some (assign name (.tables [[]]) here)
      | some (.tables items) => some (assign name (.tables (items ++ [[]])) here)
      | _ => none)
    .declared root path

/-- Add an entry to the table of a header. -/
def addBelow (header path : List Text) (name : Text) (v : Value) (root : Nodes) : Option Nodes :=
  change .implied (fun _ here => add path name v here) .declared root header

end Nodes

/-! ### The finished value -/

mutual

/-- The value of a name. -/
def Node.toValue : Node → Value
  | .value v => v
  | .table _ entries => .table (valuesOf entries)
  | .tables items => .list (tablesOf items)

/-- The values of all names. -/
def valuesOf : List (Text × Node) → List (Text × Value)
  | [] => []
  | (name, n) :: rest => (name, n.toValue) :: valuesOf rest

/-- The values of a list of tables. -/
def tablesOf : List (List (Text × Node)) → List Value
  | [] => []
  | entries :: rest => .table (valuesOf entries) :: tablesOf rest

end

end GrammarWorkbench.Toml
