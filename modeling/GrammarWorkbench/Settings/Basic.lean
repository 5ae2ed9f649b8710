import GrammarWorkbench.Completion
import GrammarWorkbench.Remap
import GrammarWorkbench.Settings.Key
import GrammarWorkbench.Toml.Document

/-!
# Settings

The tools have three sections of settings: which completion candidates are offered, how errors in
generated files are traced back, and how much is logged. Their values come from layers: the
defaults, then files in the order in which they were given, then single values, which win over all
files.

`GrammarWorkbench.Settings.load` puts the layers together and reads the sections from the result. A
section is a table; it may also be given as a list of the values of its fields. Fields that are not
known are ignored.
-/

namespace GrammarWorkbench

/-- The settings of the tools. -/
structure Settings where
  completion : CompletionOptions := {}
  remap : RemapSettings := {}
  /-- How much is logged. -/
  logLevel : Text := "warn".toList
deriving DecidableEq, Repr

/-- Why there are no settings. -/
inductive SettingsError where
  /-- A text that is no key. -/
  | badKey (key : Text)
  | fileNotFound (path : Text)
  | unreadableFile (path : Text) (cause : FileError)
  /-- A file that is no TOML. -/
  | badFile (path : Text)
  /-- A value that cannot be converted. -/
  | badValue (key found expected : Text)
  /-- A section or a list of another kind. -/
  | badShape (found expected : Text)
  /-- A section that is a list with too few items. -/
  | tooShort (length : Nat) (expected : Text)
  | missingField (name : Text)
deriving DecidableEq, Repr

namespace SettingsError

/-- The wording of an error. -/
def message : SettingsError → Text
  | badKey key => "no key: ".toList ++ key.quoted
  | fileNotFound path => "configuration file \"".toList ++ path ++ "\" not found".toList
  | unreadableFile _ cause => cause.message
  | badFile path => "not well-formed: ".toList ++ path
  | badValue key found expected =>
    "invalid type: ".toList ++ found ++ ", expected ".toList ++ expected ++ " for key `".toList ++
      key ++ "`".toList
  | badShape found expected =>
    "invalid type: ".toList ++ found ++ ", expected ".toList ++ expected
  | tooShort length expected =>
    "invalid length ".toList ++ Text.ofNat length ++ ", expected ".toList ++ expected
  | missingField name => "missing field `".toList ++ name ++ "`".toList

end SettingsError

/-! ### Fields -/

namespace Setting

/-- The truth value of a field. -/
def readBool (key : Text) (s : Setting) : Except SettingsError Bool :=
  match s.toBool? with
  | some b => .ok b
  | none =>
    let found := match s with
      | text t => text t.toLower
      | s => s
    .error (.badValue key found.describe "a boolean".toList)

/-- The text of a field. -/
def readText (key : Text) (s : Setting) : Except SettingsError Text :=
  match s.toText? with
  | some t => .ok t
  | none => .error (.badValue key s.describe "a string".toList)

/-- The key of an item of a list. -/
def itemKey (key : Text) (i : Nat) : Text :=
  key ++ '[' :: Text.ofNat i ++ [']']

/-- The texts of a list that is a field. -/
def readTexts (key : Text) (s : Setting) : Except SettingsError (List Text) :=
  match s with
  | list items => items.zipIdx.mapM fun (x, i) => x.readText (itemKey key i)
  | s => .error (.badShape s.describe "a sequence".toList)

end Setting

/-! ### Sections -/

/-- A section: its name, how it is called in messages, and its value. -/
structure SettingsSection where
  name : Text
  /-- How the section is called in messages. -/
  title : Text
  /-- The number of its fields. -/
  size : Nat
  value : Setting

namespace SettingsSection

/-- Read a field, given by its place among the fields and by its name. A table may lack it. -/
def field {α : Type} (s : SettingsSection) (i : Nat) (name : Text)
    (read : Text → Setting → Except SettingsError α) : Except SettingsError (Option α) :=
  match s.value with
  | .table entries =>
    match entries.lookup name with
    | some v => (read (s.name ++ '.' :: name) v).map some
    | none => .ok none
  | .list items =>
    match items[i]? with
    | some v => (read (Setting.itemKey s.name i) v).map some
    | none =>
      .error (.tooShort i (s.title ++ " with ".toList ++ Text.ofNat s.size ++
        (if s.size = 1 then " element" else " elements").toList))
  | v => .error (.badShape v.describe s.title)

/-- A field that may not be missing. -/
def require {α : Type} (name : Text) : Option α → Except SettingsError α
  | some a => .ok a
  | none => .error (.missingField name)

end SettingsSection

namespace Settings

/-- Read which candidates are offered. -/
def readCompletion (v : Setting) : Except SettingsError CompletionOptions := do
  let s : SettingsSection :=
    ⟨"completion".toList, "struct CompletionConfig".toList, 3, v⟩
  let keywords ← s.field 0 "include_keywords".toList Setting.readBool
  let descriptions ← s.field 1 "include_descriptions".toList Setting.readBool
  let undeclared ← s.field 2 "suggest_undeclared_productions".toList Setting.readBool
  return {
    keywords := ← SettingsSection.require "include_keywords".toList keywords
    descriptions := ← SettingsSection.require "include_descriptions".toList descriptions
    undeclaredProductions :=
      ← SettingsSection.require "suggest_undeclared_productions".toList undeclared }

/-- Read how errors are traced back. -/
def readRemap (v : Setting) : Except SettingsError RemapSettings := do
  let s : SettingsSection := ⟨"remap".toList, "struct RemapConfig".toList, 2, v⟩
  let mapFile ← s.field 0 "map_file".toList Setting.readText
  let generated ← s.field 1 "generated_files".toList Setting.readTexts
  return {
    mapFile := ← SettingsSection.require "map_file".toList mapFile
    generatedFiles := ← SettingsSection.require "generated_files".toList generated }

/-- Read how much is logged. -/
def readLogging (v : Setting) : Except SettingsError Text := do
  let s : SettingsSection := ⟨"logging".toList, "struct LoggingConfig".toList, 1, v⟩
  let level ← s.field 0 "level".toList Setting.readText
  SettingsSection.require "level".toList level

/-- Read all sections from a table. -/
def ofTable (root : Setting) : Except SettingsError Settings := do
  let find (name : Text) := SettingsSection.require name (root.entries.lookup name)
  return {
    completion := ← readCompletion (← find "completion".toList)
    remap := ← readRemap (← find "remap".toList)
    logLevel := ← readLogging (← find "logging".toList) }

/-- The table that settings are read from. -/
def toTable (s : Settings) : Setting :=
  .table [
    ("completion".toList, .table [
      ("include_keywords".toList, .bool s.completion.keywords),
      ("include_descriptions".toList, .bool s.completion.descriptions),
      ("suggest_undeclared_productions".toList, .bool s.completion.undeclaredProductions)]),
    ("remap".toList, .table [
      ("map_file".toList, .text s.remap.mapFile),
      ("generated_files".toList, .list (s.remap.generatedFiles.map .text))]),
    ("logging".toList, .table [("level".toList, .text s.logLevel)])]

end Settings

end GrammarWorkbench
