import GrammarWorkbench.Files.Path

/-!
# A tree of files

The files that a program can see, below the root. A file holds a text, or bytes that are no text. A
path is followed part by part, from the root if it begins with a slash and from the working directory
if not, and each part on the way has to be a directory. Above the root is the root itself.

A name has at most 255 bytes and a path fewer than 4096, and a path with a null character leads
nowhere.
-/

namespace GrammarWorkbench

/-- Why a file cannot be read or written. -/
inductive FileError where
  | notFound
  | isDirectory
  /-- A part on the way is a file. -/
  | notDirectory
  /-- The file is no UTF-8 text. -/
  | notText
  | nameTooLong
  /-- There is a null character in the path. -/
  | nullInName
deriving DecidableEq, Repr

/-- The wording of the operating system. -/
def FileError.message : FileError → Text
  | notFound => "No such file or directory (os error 2)".toList
  | isDirectory => "Is a directory (os error 21)".toList
  | notDirectory => "Not a directory (os error 20)".toList
  | notText => "stream did not contain valid UTF-8".toList
  | nameTooLong => "File name too long (os error 36)".toList
  | nullInName => "file name contained an unexpected NUL byte".toList

/-- What can be read: the text of a file, or the reason why there is none. -/
abbrev Reader := Text → Except FileError Text

/-- What stands at a place of a tree. -/
inductive FileNode where
  | directory
  | text (t : Text)
  /-- Bytes that are no UTF-8 text. -/
  | binary
deriving DecidableEq, Repr

/-- What stands below the root, each place by the names that lead to it from there. The working
directory and the directories around it are always there. -/
structure FileTree where
  nodes : List (List Text × FileNode) := []
  /-- The working directory. -/
  base : List Text := ["work".toList]
deriving DecidableEq, Repr

namespace FileTree

/-- What stands at the place to which the names lead. -/
def node? (t : FileTree) (place : List Text) : Option FileNode :=
  if place.isPrefixOf t.base then some .directory else t.nodes.lookup place

/-- Put something at a place. -/
def put (t : FileTree) (place : List Text) (n : FileNode) : FileTree :=
  { t with nodes := (place, n) :: t.nodes.filter (·.1 != place) }

/-- Where a path leads. -/
inductive Target where
  /-- Something is there. -/
  | found (n : FileNode) (place : List Text)
  /-- Nothing is there, but a directory is around it. -/
  | free (place : List Text)
  /-- Nothing is there, and the path asks for a directory. -/
  | freeDirectory
deriving DecidableEq, Repr

/-- How many bytes a name has at most. -/
def nameLimit : Nat := 255

/-- Paths have fewer bytes than this. -/
def pathLimit : Nat := 4096

/-- Follow the parts of a path from a target. -/
def follow (t : FileTree) (here : Target) : List Text → Except FileError Target
  | [] => .ok here
  | part :: parts =>
    match here with
    | .free _ => if part = [] ∧ parts = [] then .ok .freeDirectory else .error .notFound
    | .freeDirectory => .error .notFound
    | .found .directory place =>
      if Path.isVoid part then t.follow here parts
      else if part = ['.', '.'] then t.follow (.found .directory place.dropLast) parts
      else if nameLimit < part.size then .error .nameTooLong
      else
        match t.node? (place ++ [part]) with
        | some n => t.follow (.found n (place ++ [part])) parts
        | none => t.follow (.free (place ++ [part])) parts
    | .found _ _ => .error .notDirectory

/-- Where the text of a path begins: at the root, or in the working directory. -/
def origin (t : FileTree) (path : Text) : List Text :=
  if path.head? = some '/' then [] else t.base

/-- Where the text of a path leads. -/
def target (t : FileTree) (path : Text) : Except FileError Target :=
  if path.contains '\x00' then .error .nullInName
  else if pathLimit ≤ path.size then .error .nameTooLong
  else if path = [] then .error .notFound
  else t.follow (.found .directory (t.origin path)) (Text.splitAt '/' path)

/-- **Read the text of a file.** -/
def read (t : FileTree) : Reader := fun path =>
  match t.target path with
  | .error e => .error e
  | .ok (.free _) | .ok .freeDirectory => .error .notFound
  | .ok (.found (.text s) _) => .ok s
  | .ok (.found .binary _) => .error .notText
  | .ok (.found .directory _) => .error .isDirectory

/-- **Write the text of a file** into a directory that exists. -/
def write (t : FileTree) (path content : Text) : Except FileError FileTree :=
  match t.target path with
  | .error e => .error e
  | .ok (.found .directory _) | .ok .freeDirectory => .error .isDirectory
  | .ok (.found _ place) | .ok (.free place) => .ok (t.put place (.text content))

/-- Whether a path leads to a file. -/
def isFile (t : FileTree) (path : Text) : Bool :=
  match t.target path with
  | .ok (.found (.text _) _) | .ok (.found .binary _) => true
  | _ => false

/-- The place that a path names, without a look at what is there. -/
def placeOf (t : FileTree) (path : Text) : List Text :=
  (Text.splitAt '/' path).foldl
    (fun place part =>
      if Path.isVoid part then place
      else if part = ['.', '.'] then place.dropLast
      else place ++ [part]) (t.origin path)

/-- Put something at a path, and make the directories that lead to it. -/
def install (t : FileTree) (path : Text) (n : FileNode) : FileTree :=
  let place := t.placeOf path
  let t := (List.range place.length).foldl
    (fun (t : FileTree) i =>
      match t.node? (place.take i) with
      | some _ => t
      | none => t.put (place.take i) .directory) t
  if place.isPrefixOf t.base then t else t.put place n

/-- Remove what stands at a path, with all that is below it. -/
def remove (t : FileTree) (path : Text) : FileTree :=
  { t with nodes := t.nodes.filter fun n => !(t.placeOf path).isPrefixOf n.1 }

end FileTree

end GrammarWorkbench
