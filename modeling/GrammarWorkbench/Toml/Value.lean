import GrammarWorkbench.Settings.Value
import GrammarWorkbench.Toml.Moment

/-!
# Values of a TOML file

A value as it stands in a file. All values are settings but moments, which are kept as texts.

A moment can also be written as a table: if the first entry of a table has a certain name, the table
stands for the moment that the text of this entry tells, whatever other entries it has.
-/

namespace GrammarWorkbench.Toml

/-- A value in a file. -/
inductive Value where
  | bool (b : Bool)
  | int (n : Int)
  | float (x : Binary64)
  | text (t : Text)
  | moment (m : Moment)
  | list (items : List Value)
  | table (entries : List (Text × Value))

/-- The name of the entry that makes a table a moment. -/
def momentName : Text :=
  "$__toml_private_datetime".toList

namespace Value

/-- The moment that the value of such an entry tells. -/
def readMoment? : Value → Option Moment
  | text t => Moment.ofText? t
  | _ => none

mutual

/-- **The setting of a value.** There is none if a table pretends to be a moment. -/
def toSetting? : Value → Option Setting
  | bool b => some (.bool b)
  | int n => some (.int n)
  | float x => some (.float x)
  | text t => some (.text t)
  | moment m => some (.text m.display)
  | list items => (settingsOf? items).map .list
  | table [] => some (.table [])
  | table ((name, v) :: rest) =>
    if name = momentName then v.readMoment?.map fun m => .text m.display
    else (v.toSetting?).bind fun s => (entriesOf? rest).map fun l => .table ((name, s) :: l)

/-- The settings of the items of a list. -/
def settingsOf? : List Value → Option (List Setting)
  | [] => some []
  | v :: rest => (v.toSetting?).bind fun s => (settingsOf? rest).map (s :: ·)

/-- The settings of entries. -/
def entriesOf? : List (Text × Value) → Option (List (Text × Setting))
  | [] => some []
  | (name, v) :: rest => (v.toSetting?).bind fun s => (entriesOf? rest).map ((name, s) :: ·)

end

end Value

end GrammarWorkbench.Toml
