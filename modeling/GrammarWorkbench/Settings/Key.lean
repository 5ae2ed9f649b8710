import GrammarWorkbench.Settings.Value
import GrammarWorkbench.Text.Numeral
import GrammarWorkbench.Text.Scan

/-!
# Setting keys

A key leads from the table of all settings to one value: a name, followed by names after a point and
by numbers in brackets. A negative number counts from the end of a list.

A value can be set at any key. What stands in the way is replaced by a table or a list; what is
missing is added, and gaps in lists are filled with values that are nothing. The names of a key are
taken in lower case, as all names of settings are.
-/

namespace GrammarWorkbench

/-- One step from a value to a part of it. -/
inductive KeyStep where
  | name (t : Text)
  | index (i : Int)
deriving DecidableEq, Repr

/-- The steps from the table of all settings to one of them. -/
abbrev SettingKey := List KeyStep

namespace SettingKey

/-! ### Reading -/

/-- The characters of names. -/
def isNameChar (c : Char) : Bool :=
  Text.isWord c || c == ' ' || c == '-'

/-- The blanks around a number. -/
def isBlank (c : Char) : Bool :=
  c == ' ' || c == '\t'

/-- A number in digits, with a sign if it is negative, that fits into 64 bits. -/
def index? (negative : Bool) (digits : Text) : Option Int :=
  let n : Int := Nat.ofDigitChars 10 digits 0
  Text.signed64? (if negative then -n else n)

/-- Any number of blanks. -/
def blanks : Scan Text := fun t =>
  some (t.takeWhile isBlank, t.dropWhile isBlank)

/-- A name, in lower case. -/
def name : Scan Text :=
  .map Text.toLower (.run isNameChar)

/-- A number, with blanks around it. -/
def index : Scan Int :=
  .before
    (.after blanks
      (.filterMap (fun (sign, digits) => index? sign.isSome digits)
        (.pair (.optional (.char '-')) (.run Text.isDigit))))
    blanks

/-- A name after a point, or a number in brackets. -/
def step : Scan KeyStep :=
  .or (.map .name (.after (.char '.') name))
    (.map .index (.after (.char '[') (.before index (.char ']'))))

/-- **Read a key.** -/
def read? (t : Text) : Option SettingKey :=
  match Scan.pair name (.repeated step) t with
  | some ((first, rest), []) => some (.name first :: rest)
  | _ => none

/-! ### Setting a value -/

/-- The place in a list of a given length that a number stands for. -/
def place (length : Nat) (i : Int) : Nat :=
  if 0 ≤ i then i.toNat else (length + i).toNat

/-- A list with a new item at a place, and with a filled gap before it if it is too short. -/
def setItem (items : List Setting) (n : Nat) (v : Setting) : List Setting :=
  (items ++ List.replicate (n + 1 - items.length) Setting.unit).set n v

/-- **A value with a new part** at a key. -/
def set (old : Setting) (v : Setting) : SettingKey → Setting
  | [] => v
  | [.name name] => old.put name v
  | .name name :: rest =>
    .table (Setting.assign name (set ((old.entries.lookup name).getD .unit) v rest) old.entries)
  | .index i :: rest =>
    let n := place old.items.length i
    .list (setItem old.items n (set (old.items[n]?.getD .unit) v rest))

end SettingKey

end GrammarWorkbench
