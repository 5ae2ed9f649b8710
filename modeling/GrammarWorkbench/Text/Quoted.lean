import GrammarWorkbench.Text.Hidden

/-!
# Quoted texts

How a text is shown inside a message: between double quotes, with a backslash before a quote or a
backslash, short names for tab, line feed, carriage return and the null character, and the code
point in hexadecimal digits for every other character that does not show.
-/

namespace GrammarWorkbench.Text

/-- How one character is written between quotes. -/
def quotedChar (c : Char) : Text :=
  if c = '"' then ['\\', '"']
  else if c = '\\' then ['\\', '\\']
  else if c = '\t' then ['\\', 't']
  else if c = '\n' then ['\\', 'n']
  else if c = '\r' then ['\\', 'r']
  else if c.toNat = 0 then ['\\', '0']
  else if isHidden c then
    ['\\', 'u', '\x7b'] ++ Nat.toDigits 16 c.toNat ++ ['\x7d']
  else [c]

/-- A text between double quotes. -/
def quoted (t : Text) : Text :=
  '"' :: t.flatMap quotedChar ++ ['"']

end GrammarWorkbench.Text
