import GrammarWorkbench.Number.Binary
import GrammarWorkbench.Text.Numeral
import GrammarWorkbench.Toml.Quoted

/-!
# Numbers of a TOML file

Integers are decimal, or hexadecimal, octal or binary after `0x`, `0o` or `0b`, and fit into 64 bits
with a sign. Floating-point numbers have a fraction or an exponent or both, or are one of the words
`inf` and `nan`. Single underscores may stand between digits. A decimal integer, also as the first
part of a floating-point number, has no zero in front.

A positive decimal beyond the greatest number is refused, a negative one is infinite.
-/

namespace GrammarWorkbench.Toml

/-- Digits that go on, with single underscores between them. The underscores are dropped. -/
def moreDigits (p : Char → Bool) : Scan Text
  | '_' :: c :: t =>
    if p c then (moreDigits p t).map fun (l, r) => (c :: l, r) else none
  | c :: t =>
    if p c then (moreDigits p t).map fun (l, r) => (c :: l, r) else some ([], c :: t)
  | [] => some ([], [])

/-- One or more digits, with single underscores between them. -/
def digits (p : Char → Bool) : Scan Text
  | c :: t => if p c then (moreDigits p t).map fun (l, r) => (c :: l, r) else none
  | [] => none

/-- A sign. The answer tells whether it is a minus. -/
def sign : Scan Bool
  | '+' :: t => some (false, t)
  | '-' :: t => some (true, t)
  | t => some (false, t)

/-- Decimal digits without a zero in front. -/
def decimalDigits : Scan Text
  | '0' :: t => some (['0'], t)
  | t => digits Text.isDigit t

/-- The value of decimal digits. -/
def decimalValue (t : Text) : Nat :=
  Nat.ofDigitChars 10 t 0

/-! ### Integers -/

/-- An integer with its sign. -/
def signed (negative : Bool) (n : Nat) : Int :=
  if negative then -n else n

/-- A decimal integer. -/
def decimalInteger : Scan Int :=
  .filterMap (fun (negative, t) => Text.signed64? (signed negative (decimalValue t)))
    (.pair sign decimalDigits)

/-- An integer to another base, after a mark. -/
def basedInteger (mark : Text) (base : Nat) : Scan Int :=
  let isDigit (c : Char) := (hexDigit? c).any (· < base)
  let value (t : Text) := t.foldl (fun n c => base * n + (hexDigit? c).getD 0) 0
  .filterMap (fun t => Text.signed64? (value t)) (.after (.word mark) (digits isDigit))

/-- **An integer.** -/
def integer : Scan Int :=
  .or (basedInteger ['0', 'x'] 16)
    (.or (basedInteger ['0', 'o'] 8) (.or (basedInteger ['0', 'b'] 2) decimalInteger))

/-! ### Floating-point numbers -/

/-- An exponent: a mark, a sign and digits. -/
def exponent : Scan Int :=
  .map (fun (negative, t) => signed negative (decimalValue t))
    (.after (.or (.char 'e') (.char 'E')) (.pair sign (digits Text.isDigit)))

/-- A fraction: a point and digits. -/
def fraction : Scan Text :=
  .after (.char '.') (digits Text.isDigit)

/-- What makes a number a floating-point number: the digits of its fraction, and its exponent. -/
def floatTail : Scan (Text × Int) :=
  .or (.map (fun e => ([], e)) exponent)
    (.map (fun (f, e) => (f, e.getD 0)) (.pair fraction (.optional exponent)))

/-- The number with a sign, digits before and after the point, and an exponent. -/
def floatValue? (negative : Bool) (whole fraction : Text) (exponent : Int) : Option Binary64 :=
  let x := Binary64.ofDecimal negative (decimalValue (whole ++ fraction))
    (exponent - fraction.length)
  if x = .infinite false then none else some x

/-- A floating-point number in digits. -/
def decimalFloat : Scan Binary64 :=
  .filterMap (fun ((negative, whole), f, e) => floatValue? negative whole f e)
    (.pair (.pair sign decimalDigits) floatTail)

/-- A floating-point number that is a word. -/
def wordFloat : Scan Binary64 :=
  .or (.map (fun (negative, _) => Binary64.infinite negative) (.pair sign (.word "inf".toList)))
    (.map (fun _ => Binary64.nan) (.pair sign (.word "nan".toList)))

/-- **A floating-point number.** -/
def float : Scan Binary64 :=
  .or decimalFloat wordFloat

end GrammarWorkbench.Toml
