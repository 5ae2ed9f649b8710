import GrammarWorkbench.Text.Scan

/-!
# Lines of a TOML file

Settings are kept in TOML files. This module has what stands between their values: blanks, line
breaks and comments. A line ends with a line feed, which may follow a carriage return; a carriage
return alone is an error. Control characters other than the tab occur nowhere.
-/

namespace GrammarWorkbench.Toml

/-- Spaces and tabs. -/
def isBlank (c : Char) : Bool :=
  c == ' ' || c == '\t'

/-- The characters that comments are made of: all except control characters, apart from the tab. -/
def isPlain (c : Char) : Bool :=
  c == '\t' || (0x20 ≤ c.toNat && c.toNat != 0x7F)

/-- Pass over blanks. -/
def skipBlanks (t : Text) : Text :=
  t.dropWhile isBlank

/-- Something with blanks around it. -/
def spaced {α : Type} (item : Scan α) : Scan α := fun t =>
  (item (skipBlanks t)).map fun (a, r) => (a, skipBlanks r)

/-- The end of a line. -/
def newLine : Scan Unit
  | '\n' :: t => some ((), t)
  | '\r' :: '\n' :: t => some ((), t)
  | _ => none

/-- Pass over a comment, if there is one. -/
def skipComment : Text → Text
  | '#' :: t => t.dropWhile isPlain
  | t => t

/-- Pass over the rest of a line on which nothing follows but a comment. The last line needs no line
break. -/
def endLine? (t : Text) : Option Text :=
  match skipComment (skipBlanks t) with
  | [] => some []
  | r => (newLine r).map Prod.snd

/-- Pass over blanks, line breaks and comments, where `inComment` tells whether a comment has begun.
A comment ends with its line. -/
def skipVoid (inComment : Bool) : Text → Option Text
  | [] => if inComment then none else some []
  | '\n' :: t => skipVoid false t
  | '\r' :: '\n' :: t => skipVoid false t
  | c :: t =>
    if inComment then if isPlain c then skipVoid true t else none
    else if c = '#' then skipVoid true t
    else if isBlank c then skipVoid false t
    else some (c :: t)

/-- Something that may have blanks, line breaks and comments around it. -/
def loose {α : Type} (item : Scan α) : Scan α := fun t =>
  (skipVoid false t).bind fun t =>
    (item t).bind fun (a, r) => (skipVoid false r).map (a, ·)

/-- Pass over blanks and line breaks. -/
def skipBlankLines : Text → Text
  | '\n' :: t => skipBlankLines t
  | '\r' :: '\n' :: t => skipBlankLines t
  | c :: t => if isBlank c then skipBlankLines t else c :: t
  | [] => []

end GrammarWorkbench.Toml
