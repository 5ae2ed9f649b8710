import GrammarWorkbench.Text.Basic

/-!
# Escapes in addresses

A character that may not stand at some place of an address is written as the bytes of its UTF-8
form, each of them as a percent sign and two hexadecimal digits. Characters beyond ASCII and control
characters are always written in this way; which other characters are depends on the **place**.
-/

namespace GrammarWorkbench.Address

/-- A place in an address. -/
inductive Place where
  /-- What follows the scheme of an address without slashes, and host names of unknown schemes. -/
  | plain
  | fragment
  | path
  | user
  | query
  /-- The query of an address with a well-known scheme. -/
  | specialQuery
deriving DecidableEq, Repr

/-- The characters of ASCII that are escaped in fragments, apart from control characters. -/
def escapedInFragment : List Char :=
  [' ', '"', '<', '>', '\x60']

/-- The characters of ASCII that are escaped in paths, apart from control characters. -/
def escapedInPath : List Char :=
  escapedInFragment ++ ['#', '?', '\x7b', '\x7d']

/-- The characters of ASCII that are escaped in queries, apart from control characters. -/
def escapedInQuery : List Char :=
  [' ', '"', '#', '<', '>']

/-- The characters of ASCII that are escaped at a place, apart from control characters. -/
def Place.escaped : Place → List Char
  | plain => []
  | fragment => escapedInFragment
  | path => escapedInPath
  | user => escapedInPath ++ ['/', ':', ';', '=', '@', '[', '\\', ']', '^', '|']
  | query => escapedInQuery
  | specialQuery => escapedInQuery ++ ['\'']

/-- Whether a character is escaped at a place. -/
def Place.escapes (p : Place) (c : Char) : Bool :=
  c.toNat < 0x20 || 0x7F ≤ c.toNat || p.escaped.contains c

/-- A hexadecimal digit. -/
def hexDigit (n : Nat) : Char :=
  Char.ofNat (if n < 10 then 0x30 + n else 0x41 + (n - 10))

/-- A byte as an escape. -/
def escapeByte (b : UInt8) : Text :=
  ['%', hexDigit (b.toNat / 16), hexDigit (b.toNat % 16)]

/-- A character as an escape. -/
def escapeChar (c : Char) : Text :=
  (String.utf8EncodeChar c).flatMap escapeByte

/-- **A text as it is written at a place.** Escapes that are in it already are left alone. -/
def escape (p : Place) (t : Text) : Text :=
  t.flatMap fun c => if p.escapes c then escapeChar c else [c]

/-- The value of a hexadecimal digit. -/
def hexValue? (c : Char) : Option Nat :=
  if Text.isDigit c then some (c.toNat - 0x30)
  else if 'a' ≤ c && c ≤ 'f' then some (c.toNat - 0x61 + 10)
  else if 'A' ≤ c && c ≤ 'F' then some (c.toNat - 0x41 + 10)
  else none

/-- The bytes of a text with escapes. A percent sign without two digits stands for itself. -/
def unescapeBytes : Text → List UInt8
  | '%' :: a :: b :: t =>
    match hexValue? a, hexValue? b with
    | some x, some y => (16 * x + y).toUInt8 :: unescapeBytes t
    | _, _ => 0x25 :: unescapeBytes (a :: b :: t)
  | c :: t => String.utf8EncodeChar c ++ unescapeBytes t
  | [] => []

/-- **The text that a text with escapes stands for**, if its bytes are one. -/
def unescape? (t : Text) : Option Text :=
  (String.fromUTF8? ⟨(unescapeBytes t).toArray⟩).map String.toList

end GrammarWorkbench.Address
