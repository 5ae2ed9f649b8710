import GrammarWorkbench.Text.Basic

/-!
# Blank characters

The characters with the Unicode property *White_Space*, and the removal of such characters from the
ends of a text.
-/

namespace GrammarWorkbench.Text

/-- The characters with the Unicode property *White_Space*. -/
def isBlank (c : Char) : Bool :=
  let n := c.toNat
  (0x9 ≤ n && n ≤ 0xD) || n == 0x20 || n == 0x85 || n == 0xA0 || n == 0x1680 ||
    (0x2000 ≤ n && n ≤ 0x200A) || n == 0x2028 || n == 0x2029 || n == 0x202F || n == 0x205F ||
    n == 0x3000

/-- A text without the blanks at its beginning. -/
def trimLeft (t : Text) : Text :=
  t.dropWhile isBlank

/-- A text without the blanks at its end. -/
def trimRight (t : Text) : Text :=
  (t.reverse.dropWhile isBlank).reverse

/-- A text without the blanks at its two ends. -/
def trim (t : Text) : Text :=
  trimRight (trimLeft t)

/-- Whether a text has nothing but blanks. -/
def isAllBlank (t : Text) : Bool :=
  t.all isBlank

end GrammarWorkbench.Text
