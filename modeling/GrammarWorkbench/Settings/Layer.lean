import GrammarWorkbench.Settings.Basic

/-!
# Layers of settings

Settings come in layers, of which later ones win: the defaults, the files in the order in which they
were given, and last the single values that were set by their keys. A name at the outermost level of
a file that reads as a key leads to the value of that key.

A file is looked for under its path and, if there is none, under its path with the ending `.toml`. A
file that is required has to be there and to be a text; any other one is passed over if it is not. A
file that is read has to be well-formed in both cases.
-/

namespace GrammarWorkbench

/-- One layer of settings. -/
inductive SettingsLayer where
  | file (path : Text) (required : Bool)
  /-- A single value. -/
  | value (key : Text) (v : Setting)

namespace Settings

/-! ### Files -/

/-- The second path at which a file is looked for. -/
def secondPath? (path : Text) : Option Text :=
  let p := Path.ofText path
  p.fileName.map fun _ => p.trimEnd.toText ++ ".toml".toList

/-- The paths at which a file is looked for. -/
def candidatePaths (path : Text) : List Text :=
  path :: (secondPath? path).toList

/-- Whether an attempt to read a file shows that it is there. -/
def isThere : Except FileError Text → Bool
  | .ok _ | .error .notText => true
  | .error _ => false

/-- The text of a file of settings, or why there is none. -/
def fileText (files : Reader) (path : Text) : Except SettingsError Text :=
  match (candidatePaths path).map files |>.find? isThere with
  | some (.ok t) => .ok t
  | some (.error cause) => .error (.unreadableFile path cause)
  | none => .error (.fileNotFound path)

/-- The entries of a file of settings. A file that is not required and cannot be read has none. -/
def fileEntries (files : Reader) (path : Text) (required : Bool) :
    Except SettingsError (List (Text × Setting)) :=
  match fileText files path with
  | .error e => if required then .error e else .ok []
  | .ok t =>
    match Toml.read? t with
    | some entries => .ok entries
    | none => .error (.badFile path)

/-! ### Putting layers together -/

/-- Settings with an entry of a file laid over them. -/
def putEntry (root : Setting) (e : Text × Setting) : Setting :=
  match SettingKey.read? e.1 with
  | some key => key.set root e.2
  | none => root.put e.1 e.2

/-- Settings with the files among the layers laid over them. -/
def putFiles (files : Reader) (root : Setting) :
    List SettingsLayer → Except SettingsError Setting
  | [] => .ok root
  | .file path required :: rest =>
    match fileEntries files path required with
    | .error e => .error e
    | .ok entries => putFiles files (entries.foldl putEntry root) rest
  | .value .. :: rest => putFiles files root rest

/-- The single values among the layers, with their keys. -/
def singleValues : List SettingsLayer → Except SettingsError (List (SettingKey × Setting))
  | [] => .ok []
  | .file .. :: rest => singleValues rest
  | .value key v :: rest =>
    match SettingKey.read? key with
    | none => .error (.badKey key)
    | some k => (singleValues rest).map ((k, v) :: ·)

/-- **The settings that layers make up.** Keys are read before any file is. -/
def load (files : Reader) (layers : List SettingsLayer) : Except SettingsError Settings := do
  let values ← singleValues layers
  let root ← putFiles files ({} : Settings).toTable layers
  ofTable (values.foldl (fun root (key, v) => key.set root v) root)

end Settings

end GrammarWorkbench
