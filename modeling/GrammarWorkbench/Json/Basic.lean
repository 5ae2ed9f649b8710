import GrammarWorkbench.Text.Basic

/-!
# JSON values and their printed form

All answers of the tools are JSON values: texts, numbers, truth values, lists, and objects
whose fields keep their order. The printed form has one item per line, indented by two blanks for
each level; empty lists and objects stay on their line. The compact form, for messages between
programs, is one line without blanks. Characters are printed as they are, except quotes, backslashes
and control characters.
-/

namespace GrammarWorkbench

/-- A JSON value. -/
inductive Json where
  | null
  | bool (b : Bool)
  | num (n : Nat)
  | int (n : Int)
  | str (t : Text)
  | arr (items : List Json)
  | obj (fields : List (String × Json))

namespace Json

/-- An absent value is `null`. -/
def ofOption {α : Type} (f : α → Json) : Option α → Json
  | none => null
  | some a => f a

/-- A list of encoded values. -/
def ofList {α : Type} (f : α → Json) (l : List α) : Json :=
  arr (l.map f)

/-- A field that is left out when its value is absent. -/
def optionalField {α : Type} (key : String) (f : α → Json) (value : Option α) :
    List (String × Json) :=
  (value.map fun a => (key, f a)).toList

/-- The code of a control character, in four hexadecimal digits. -/
def controlCode (c : Char) : Text :=
  ['\\', 'u', '0', '0', Nat.digitChar (c.toNat / 16), Nat.digitChar (c.toNat % 16)]

/-- How one character of a text is printed. -/
def escaped (c : Char) : Text :=
  if c = '"' then ['\\', '"']
  else if c = '\\' then ['\\', '\\']
  else if c = '\n' then ['\\', 'n']
  else if c = '\r' then ['\\', 'r']
  else if c = '\t' then ['\\', 't']
  else if c = '\x08' then ['\\', 'b']
  else if c = '\x0c' then ['\\', 'f']
  else if c.toNat < 0x20 then controlCode c
  else [c]

/-- A text in quotes. -/
def printText (t : Text) : Text :=
  '"' :: t.flatMap escaped ++ ['"']

/-- A line break and the indentation of a level. -/
def newLine (level : Nat) : Text :=
  '\n' :: List.replicate (2 * level) ' '

/-- Printed items between brackets, each on its line, for brackets that stand at a level. -/
def block (opening closing : Char) (level : Nat) (items : List Text) : Text :=
  if items.isEmpty then [opening, closing]
  else
    opening :: [','].intercalate (items.map (newLine (level + 1) ++ ·)) ++ newLine level ++
      [closing]

mutual

/-- The printed form of a value at a level. -/
def printAt (level : Nat) : Json → Text
  | null => "null".toList
  | bool b => if b then "true".toList else "false".toList
  | num n => Text.ofNat n
  | int n => Text.ofInt n
  | str t => printText t
  | arr items => block '[' ']' level (printItems (level + 1) items)
  | obj fields => block '\x7b' '\x7d' level (printFields (level + 1) fields)

/-- The printed forms of the items of a list. -/
def printItems (level : Nat) : List Json → List Text
  | [] => []
  | x :: rest => printAt level x :: printItems level rest

/-- The printed forms of the fields of an object. -/
def printFields (level : Nat) : List (String × Json) → List Text
  | [] => []
  | (key, x) :: rest =>
    (printText key.toList ++ ": ".toList ++ printAt level x) :: printFields level rest

end

/-- **The printed form of a value.** -/
def print (j : Json) : Text :=
  printAt 0 j

mutual

/-- **The compact form of a value.** -/
def compact : Json → Text
  | null => "null".toList
  | bool b => if b then "true".toList else "false".toList
  | num n => Text.ofNat n
  | int n => Text.ofInt n
  | str t => printText t
  | arr items => '[' :: [','].intercalate (compactItems items) ++ [']']
  | obj fields => '\x7b' :: [','].intercalate (compactFields fields) ++ ['\x7d']

/-- The compact forms of the items of a list. -/
def compactItems : List Json → List Text
  | [] => []
  | x :: rest => compact x :: compactItems rest

/-- The compact forms of the fields of an object. -/
def compactFields : List (String × Json) → List Text
  | [] => []
  | (key, x) :: rest => (printText key.toList ++ ':' :: compact x) :: compactFields rest

end

end Json

end GrammarWorkbench
