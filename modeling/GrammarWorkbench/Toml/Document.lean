import GrammarWorkbench.Toml.Table

/-!
# TOML files

A file is a list of statements, one on a line: entries, and headers of tables, to which the entries
below them belong. `GrammarWorkbench.Toml.read?` reads the statements first and then carries them
out; there is no answer if one of the two is not possible, or if the values that come out are no
settings.

Values are nested less than 80 deep.
-/

namespace GrammarWorkbench.Toml

/-! ### Values -/

/-- The items of a list, after its opening bracket. A comma may follow the last one. -/
def listTail (item : Scan Value) : Scan Value := fun t =>
  match Scan.separated (loose item) ',' t with
  | some (items, r) =>
    let r := match r with
      | ',' :: r => r
      | r => r
    (skipVoid false r).bind fun r => (Scan.char ']' r).map fun (_, r) => (.list items, r)
  | none => (skipVoid false t).bind fun r => (Scan.char ']' r).map fun (_, r) => (.list [], r)

/-- A key and its value, on one line. -/
def entry (item : Scan Value) : Scan (List Text × Value) :=
  .pair (.before key (.char '=')) (spaced item)

/-- Add an entry with a key of one or more names. -/
def addEntry (here : Nodes) (e : List Text × Value) : Option Nodes :=
  match e.1.getLast? with
  | some name => here.add e.1.dropLast name e.2
  | none => none

/-- The entries of a table on one line, after its opening brace. -/
def tableTail (item : Scan Value) : Scan Value := fun t =>
  let (entries, r) := ((Scan.separated (entry item) ',') t).getD ([], t)
  match skipBlanks r with
  | '\x7d' :: r => (entries.foldlM addEntry []).map fun here => (.table (valuesOf here), r)
  | _ => none

/-- A value that is no list or table. -/
def scalar : Scan Value :=
  .or (.map Value.text quotedText)
    (.or (.map Value.moment moment)
      (.or (.map Value.float float)
        (.or (.map Value.int integer)
          (.or (.map (fun _ => .bool true) (.word "true".toList))
            (.map (fun _ => .bool false) (.word "false".toList))))))

/-- **A value** that is nested at most to the given depth. -/
def value : Nat → Scan Value
  | depth + 1, '[' :: t => listTail (value depth) t
  | depth + 1, '\x7b' :: t => tableTail (value depth) t
  | _, t => scalar t

/-- How deep lists and tables are nested at most. -/
def depthLimit : Nat := 79

/-! ### Statements -/

/-- A statement. Keys are given as the names before the last one, and the last one. -/
inductive Statement where
  | entry (path : List Text) (name : Text) (v : Value)
  | table (path : List Text) (name : Text)
  /-- One more table of a list. -/
  | item (path : List Text) (name : Text)

/-- A key, cut before its last name. -/
def cutKey : Scan (List Text × Text) :=
  .filterMap (fun names => names.getLast?.map (names.dropLast, ·)) key

/-- A statement. -/
def statement : Scan Statement
  | '[' :: '[' :: t =>
    (Scan.before cutKey (.word [']', ']']) t).map fun ((path, name), r) => (.item path name, r)
  | '[' :: t =>
    (Scan.before cutKey (.char ']') t).map fun ((path, name), r) => (.table path name, r)
  | t =>
    (Scan.pair (.before cutKey (.char '=')) (spaced (value depthLimit)) t).map
      fun (((path, name), v), r) => (.entry path name v, r)

/-- A line: a statement or nothing, and a comment or nothing. -/
def line : Scan (Option Statement) := fun t =>
  match endLine? t with
  | some r => some (none, r)
  | none => (statement (skipBlanks t)).bind fun (s, r) => (endLine? r).map (some s, ·)

/-- The statements of a text without a byte order mark. -/
def statements? (t : Text) : Option (List Statement) :=
  match Scan.many line t with
  | (lines, []) => some (lines.filterMap id)
  | _ => none

/-! ### Carrying out -/

/-- The tables so far, and the header below which entries are added. -/
structure Building where
  root : Nodes := []
  header : List Text := []

/-- Carry out a statement. -/
def Building.run (b : Building) : Statement → Option Building
  | .entry path name v => (b.root.addBelow b.header path name v).map ({ b with root := · })
  | .table path name => (b.root.declare path name).map (⟨·, path ++ [name]⟩)
  | .item path name => (b.root.declareItem path name).map (⟨·, path ++ [name]⟩)

/-- A text without the byte order mark at its beginning. -/
def dropByteOrderMark : Text → Text
  | c :: t => if c.toNat = 0xFEFF then t else c :: t
  | [] => []

/-- The entries of the outermost table, as settings. -/
def Building.entries? (b : Building) : Option (List (Text × Setting)) :=
  match (Value.table (valuesOf b.root)).toSetting? with
  | some (.table entries) => some entries
  | _ => none

/-- **Read a file**: the entries of its outermost table. -/
def read? (t : Text) : Option (List (Text × Setting)) :=
  (statements? (dropByteOrderMark t)).bind fun l =>
    (l.foldlM Building.run {}).bind Building.entries?

end GrammarWorkbench.Toml
