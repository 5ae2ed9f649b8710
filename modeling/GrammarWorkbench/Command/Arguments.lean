import GrammarWorkbench.Text.Numeral

/-!
# The command line

The words of a command line are read from left to right. First come options of the program itself,
then the name of a command, then the options and the arguments of the command in any order. An
option is a long name after two dashes or a letter after one dash; its value is the next word, or
stands in the same word, after an equals sign or, for a letter, at once. A word that begins with a
dash is never the value of the option before it. After a word of two dashes all words are arguments.

The option for settings is understood on both sides of the name of the command. No option is given
twice on one side. Asking for help or for the version ends the reading, but the words before it have
to be right.
-/

namespace GrammarWorkbench

/-- The commands. -/
inductive CommandName where
  | complete
  | symbols
  | remap
  | remapLog
  | generatorLog
  | map
deriving DecidableEq, Repr

/-- The options that have a value. -/
inductive OptionName where
  /-- A file of settings. -/
  | config
  | line
  | column
  /-- The directory at which the files of a log start. -/
  | baseDir
deriving DecidableEq, Repr

/-- Why the reading of a command line ends. -/
inductive CommandLineStop where
  | help
  | version
  /-- The command line is wrong. -/
  | misuse
deriving DecidableEq, Repr

/-! ### Names -/

/-- The names of the commands. -/
def CommandName.table : List (String × CommandName) :=
  [("complete", .complete), ("symbols", .symbols), ("remap", .remap), ("remap-log", .remapLog),
   ("generator-log", .generatorLog), ("map", .map)]

/-- The command with a name. -/
def CommandName.ofText? (t : Text) : Option CommandName :=
  CommandName.table.lookup (String.ofList t)

/-- The option with a long name. -/
def OptionName.ofLong? (t : Text) : Option OptionName :=
  [("config", OptionName.config), ("line", .line), ("column", .column),
    ("base-dir", .baseDir)].lookup (String.ofList t)

/-- The option with a letter. -/
def OptionName.ofLetter? : Char → Option OptionName
  | 'c' => some .config
  | 'l' => some .line
  | _ => none

/-- Whether the value of an option is a number. -/
def OptionName.isNumber : OptionName → Bool
  | line | column => true
  | config | baseDir => false

/-- What may stand on one side of the name of the command. -/
structure Usage where
  options : List OptionName
  /-- For each argument, whether it is a number. -/
  arguments : List Bool
  /-- Whether the version can be asked for. -/
  hasVersion : Bool
deriving DecidableEq, Repr

/-- What may stand before the name of a command. -/
def Usage.program : Usage :=
  ⟨[.config], [], true⟩

/-- What may stand after the name of a command. -/
def CommandName.usage : CommandName → Usage
  | complete => ⟨[.config, .line, .column], [false], false⟩
  | symbols | generatorLog | map => ⟨[.config], [false], false⟩
  | remap => ⟨[.config], [false, true, true], false⟩
  | remapLog => ⟨[.config, .baseDir], [false], false⟩

/-! ### Words -/

/-- What has been read on one side of the name of the command. -/
structure CommandLine where
  options : List (OptionName × Text) := []
  /-- The option that was read last, and its value if that has been read. -/
  pending : Option (OptionName × Option Text) := none
  arguments : List Text := []
  /-- Whether only arguments follow. -/
  onlyArguments : Bool := false
deriving DecidableEq, Repr

namespace CommandLine

/-- Give an option a value, if it has none and the value is of its kind. -/
def assign (l : CommandLine) (o : OptionName) (v : Text) : Except CommandLineStop CommandLine :=
  if (l.options.lookup o).isSome || (o.isNumber && (Text.numeral? v).isNone) then .error .misuse
  else .ok { l with options := l.options ++ [(o, v)] }

/-- Finish the option that was read last. -/
def settle (l : CommandLine) : Except CommandLineStop CommandLine :=
  match l.pending with
  | none => .ok l
  | some (_, none) => .error .misuse
  | some (o, some v) => { l with pending := none }.assign o v

/-- Read an argument. -/
def argument (u : Usage) (l : CommandLine) (v : Text) : Except CommandLineStop CommandLine := do
  let l ← l.settle
  match u.arguments[l.arguments.length]? with
  | none => .error .misuse
  | some isNumber =>
    if isNumber && (Text.numeral? v).isNone then .error .misuse
    else .ok { l with arguments := l.arguments ++ [v] }

/-- Read an option, with its value if that stands in the same word. -/
def option (u : Usage) (l : CommandLine) (o : OptionName) (v : Option Text) :
    Except CommandLineStop CommandLine := do
  if !u.options.contains o then .error .misuse
  else
    let l ← l.settle
    match v with
    | some v => l.assign o v
    | none => .ok { l with pending := some (o, none) }

/-- End the reading, after the option that was read last. -/
def stop (l : CommandLine) (s : CommandLineStop) : Except CommandLineStop CommandLine :=
  l.settle.bind fun _ => .error s

/-- Read the letters of a word after one dash. -/
def letters (u : Usage) (l : CommandLine) : Text → Except CommandLineStop CommandLine
  | [] => .ok l
  | 'h' :: _ => l.stop .help
  | c :: rest =>
    if c = 'V' && u.hasVersion then l.stop .version
    else
      match OptionName.ofLetter? c with
      | none => .error .misuse
      | some o =>
        match rest with
        | [] => l.option u o none
        | '=' :: v => l.option u o (some v)
        | v => l.option u o (some v)

/-- Read a long name, with a value if that stands in the same word. -/
def long (u : Usage) (l : CommandLine) (name : Text) (v : Option Text) :
    Except CommandLineStop CommandLine :=
  if name = "help".toList && v.isNone then l.stop .help
  else if name = "version".toList && v.isNone && u.hasVersion then l.stop .version
  else
    match OptionName.ofLong? name with
    | none => .error .misuse
    | some o => l.option u o v

/-- A long name and the value after an equals sign. -/
def cutValue (t : Text) : Text × Option Text :=
  match t.dropWhile (· != '=') with
  | _ :: v => (t.takeWhile (· != '='), some v)
  | [] => (t, none)

/-- **Read a word.** -/
def word (u : Usage) (l : CommandLine) (w : Text) : Except CommandLineStop CommandLine :=
  if l.onlyArguments then l.argument u w
  else
    match w with
    | ['-', '-'] => .ok { l with onlyArguments := true }
    | '-' :: '-' :: t => l.long u (cutValue t).1 (cutValue t).2
    | '-' :: c :: t => l.letters u (c :: t)
    | w =>
      match l.pending with
      | some (o, none) => .ok { l with pending := some (o, some w) }
      | _ => l.argument u w

/-- Read all words after the name of a command. -/
def words (u : Usage) (ws : List Text) : Except CommandLineStop CommandLine :=
  (ws.foldlM (word u) {}).bind settle

/-- Whether the next word may be the name of a command. -/
def awaitsCommand (l : CommandLine) : Bool :=
  match l.pending with
  | some (_, none) => false
  | _ => !l.onlyArguments

/-- Help for the program or for one of its commands. -/
def help (topics : List Text) : CommandLineStop :=
  match topics with
  | [] => .help
  | [t] => if t = "help".toList || (CommandName.ofText? t).isSome then .help else .misuse
  | _ => .misuse

/-- Read a whole command line: the command, and what was read before and after its name. -/
def program (l : CommandLine) :
    List Text → Except CommandLineStop (CommandName × CommandLine × CommandLine)
  | [] => .error .misuse
  | w :: ws =>
    if l.awaitsCommand && w = "help".toList then .error (help ws)
    else
      match if l.awaitsCommand then CommandName.ofText? w else none with
      | some name => do
        let after ← words name.usage ws
        let before ← l.settle
        return (name, before, after)
      | none => do
        let l ← l.word .program w
        l.program ws

/-- The value of an option that may not be missing. -/
def required (l : CommandLine) (o : OptionName) : Except CommandLineStop Text :=
  match l.options.lookup o with
  | some v => .ok v
  | none => .error .misuse

end CommandLine

/-! ### Commands -/

/-- What is asked for. -/
inductive Command where
  | complete (path : Text) (line column : Nat)
  | symbols (path : Text)
  | remap (path : Text) (line column : Nat)
  /-- A log, and the directory at which its files start if it is not that of the log. -/
  | remapLog (path : Text) (baseDir : Option Text)
  | generatorLog (path : Text)
  | map (path : Text)
deriving DecidableEq, Repr

/-- A number that has been checked. -/
def Command.number (t : Text) : Except CommandLineStop Nat :=
  match Text.numeral? t with
  | some n => .ok n
  | none => .error .misuse

/-- The command with a name and the words after it. -/
def Command.ofLine (name : CommandName) (l : CommandLine) : Except CommandLineStop Command := do
  match name, l.arguments with
  | .complete, [path] =>
    return .complete path (← number (← l.required .line)) (← number (← l.required .column))
  | .symbols, [path] => return .symbols path
  | .remap, [path, line, column] => return .remap path (← number line) (← number column)
  | .remapLog, [path] => return .remapLog path (l.options.lookup .baseDir)
  | .generatorLog, [path] => return .generatorLog path
  | .map, [path] => return .map path
  | _, _ => .error .misuse

/-- A command, and the file of settings for it. -/
structure Invocation where
  command : Command
  config : Option Text
deriving DecidableEq, Repr

/-- **Read a command line.** The file of settings after the name of the command wins. -/
def Invocation.ofWords (ws : List Text) : Except CommandLineStop Invocation := do
  let (name, before, after) ← CommandLine.program {} ws
  let command ← Command.ofLine name after
  return ⟨command, (after.options.lookup .config).or (before.options.lookup .config)⟩

end GrammarWorkbench
