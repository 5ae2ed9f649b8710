import GrammarWorkbench.Toml.Line

/-!
# Quoted texts of a TOML file

A text stands between double quotes, where a backslash begins an escape, or between single quotes,
where every character stands for itself. Between three quotes of a kind a text may go over several
lines: a line break right after the opening quotes is dropped, all other line breaks are single line
feeds, and one or two quotes of the kind may stand anywhere, also right before the closing ones. A
backslash at the end of a line takes away all blanks and line breaks that follow.
-/

namespace GrammarWorkbench.Toml

/-! ### Escapes -/

/-- The value of a hexadecimal digit. -/
def hexDigit? (c : Char) : Option Nat :=
  if Text.isDigit c then some (c.toNat - 0x30)
  else if 'a' ≤ c && c ≤ 'f' then some (c.toNat - 0x61 + 10)
  else if 'A' ≤ c && c ≤ 'F' then some (c.toNat - 0x41 + 10)
  else none

/-- The value of hexadecimal digits. -/
def hexValue? (t : Text) : Option Nat :=
  t.foldl (fun n c => n.bind fun n => (hexDigit? c).map (16 * n + ·)) (some 0)

/-- The character with a code point, if there is one. -/
def codePoint? (n : Nat) : Option Char :=
  if n.isValidChar then some (Char.ofNat n) else none

/-- The character with a code point of a given number of hexadecimal digits. -/
def hexEscape (digits : Nat) : Scan Char := fun t =>
  if t.length < digits then none
  else ((hexValue? (t.take digits)).bind codePoint?).map (·, t.drop digits)

/-- What stands after the backslash of an escape. -/
def escape : Scan Char
  | 'b' :: t => some ('\x08', t)
  | 'f' :: t => some ('\x0c', t)
  | 'n' :: t => some ('\n', t)
  | 'r' :: t => some ('\r', t)
  | 't' :: t => some ('\t', t)
  | '"' :: t => some ('"', t)
  | '\\' :: t => some ('\\', t)
  | 'u' :: t => hexEscape 4 t
  | 'U' :: t => hexEscape 8 t
  | _ => none

/-! ### Texts on one line -/

/-- A character between double quotes, or an escape. -/
def basicChar : Scan Char
  | '\\' :: t => escape t
  | c :: t => if isPlain c && c != '"' then some (c, t) else none
  | [] => none

/-- A text between double quotes. -/
def basicText : Scan Text :=
  .after (.char '"') (.before (.repeated basicChar) (.char '"'))

/-- A text between single quotes. -/
def literalText : Scan Text := fun t =>
  match t with
  | '\'' :: t =>
    let content := t.takeWhile fun c => isPlain c && c != '\''
    (Scan.char '\'' (t.drop content.length)).map fun (_, r) => (content, r)
  | _ => none

/-! ### Texts on several lines -/

/-- A line break, as a text of its own. -/
def lineFeed : Scan Text :=
  .map (fun _ => ['\n']) newLine

/-- A quote that does not begin three quotes. -/
def innerQuote (quote : Char) : Scan Text := fun t =>
  if [quote, quote, quote].isPrefixOf t then none
  else (Scan.char quote t).map fun (_, r) => ([quote], r)

/-- A backslash at the end of a line, with the blanks and line breaks after it. -/
def lineJoin : Scan Text
  | '\\' :: t => (newLine (skipBlanks t)).map fun (_, r) => ([], skipBlankLines r)
  | _ => none

/-- A piece of a text between three double quotes. -/
def basicPiece : Scan Text :=
  .or lineJoin (.or (.map ([·]) basicChar) (.or lineFeed (innerQuote '"')))

/-- A piece of a text between three single quotes. -/
def literalPiece : Scan Text :=
  .or (fun
    | c :: t => if isPlain c && c != '\'' then some ([c], t) else none
    | [] => none)
    (.or lineFeed (innerQuote '\''))

/-- The closing quotes of a text, with the one or two quotes before them that belong to it. -/
def closing (quote : Char) : Scan Text := fun t =>
  let n := (t.takeWhile (· == quote)).length
  if n < 3 then none
  else
    let inner := min (n - 3) 2
    some (List.replicate inner quote, t.drop (inner + 3))

/-- A text between three quotes. -/
def longText (quote : Char) (piece : Scan Text) : Scan Text :=
  .after (.pair (.word [quote, quote, quote]) (.optional newLine))
    (.map (fun (pieces, last) => pieces.flatten ++ last)
      (.pair (.repeated piece) (closing quote)))

/-- **A quoted text** of any kind. -/
def quotedText : Scan Text :=
  .or (longText '"' basicPiece)
    (.or basicText (.or (longText '\'' literalPiece) literalText))

/-! ### Keys -/

/-- The characters of keys without quotes. -/
def isBare (c : Char) : Bool :=
  Text.isWord c || c == '-'

/-- One name of a key. -/
def simpleKey : Scan Text :=
  .or basicText (.or literalText (.run isBare))

/-- Keys have fewer names than this. -/
def keyLimit : Nat := 80

/-- **A key**: names with points between them. -/
def key : Scan (List Text) :=
  .filterMap (fun names => if names.length < keyLimit then some names else none)
    (.separated (spaced simpleKey) '.')

end GrammarWorkbench.Toml
