/-!
# Texts and their sizes

A text is its list of characters, and everything that is said about texts in this library is said
about that list. Three measures are put on it: the number of characters (`List.length`), the number
of **bytes** of its UTF-8 form (`GrammarWorkbench.Text.size`), in which offsets and columns are
counted, and the number of **UTF-16 code units** (`GrammarWorkbench.Text.units`), in which editors
count.

* `GrammarWorkbench.Text.takeBytes` and `GrammarWorkbench.Text.dropBytes` cut a text at a byte
  offset. An offset inside a character is rounded down, so that a cut never splits one;
* `GrammarWorkbench.Text.takeUnits` cuts at a UTF-16 offset and rounds up instead;
* `GrammarWorkbench.Text.after?` removes a given beginning;
* `GrammarWorkbench.Text.ofNat` and `GrammarWorkbench.Text.ofInt` write a number in decimal digits.
-/

namespace GrammarWorkbench

/-- A text: its characters, in order. -/
abbrev Text := List Char

namespace Text

/-! ### Measures -/

/-- The number of bytes of the UTF-8 form of a text. -/
def size : Text → Nat
  | [] => 0
  | c :: t => c.utf8Size + size t

@[simp]
theorem size_nil : size [] = 0 := rfl

@[simp]
theorem size_cons (c : Char) (t : Text) : size (c :: t) = c.utf8Size + size t := rfl

@[simp]
theorem size_append (s t : Text) : size (s ++ t) = size s + size t := by
  induction s with
  | nil => simp
  | cons c s ih => simp [ih, Nat.add_assoc]

/-- The number of UTF-16 code units of one character: two above the basic plane. -/
def charUnits (c : Char) : Nat :=
  if c.toNat < 0x10000 then 1 else 2

/-- The number of UTF-16 code units of a text. -/
def units : Text → Nat
  | [] => 0
  | c :: t => charUnits c + units t

@[simp]
theorem units_nil : units [] = 0 := rfl

@[simp]
theorem units_cons (c : Char) (t : Text) : units (c :: t) = charUnits c + units t := rfl

@[simp]
theorem units_append (s t : Text) : units (s ++ t) = units s + units t := by
  induction s with
  | nil => simp
  | cons c s ih => simp [ih, Nat.add_assoc]

/-! ### Cuts -/

/-- The longest beginning of a text that has at most `n` bytes. -/
def takeBytes (n : Nat) : Text → Text
  | [] => []
  | c :: t => if c.utf8Size ≤ n then c :: takeBytes (n - c.utf8Size) t else []

/-- What is left of a text after its longest beginning of at most `n` bytes. -/
def dropBytes (n : Nat) : Text → Text
  | [] => []
  | c :: t => if c.utf8Size ≤ n then dropBytes (n - c.utf8Size) t else c :: t

/-- The two parts of a cut make up the text. -/
@[simp]
theorem takeBytes_append_dropBytes (n : Nat) (t : Text) : takeBytes n t ++ dropBytes n t = t := by
  induction t generalizing n with
  | nil => rfl
  | cons c t ih =>
    by_cases h : c.utf8Size ≤ n
    · simp [takeBytes, dropBytes, h, ih]
    · simp [takeBytes, dropBytes, h]

theorem size_takeBytes_le (n : Nat) (t : Text) : size (takeBytes n t) ≤ n := by
  induction t generalizing n with
  | nil => simp [takeBytes]
  | cons c t ih =>
    by_cases h : c.utf8Size ≤ n
    · have := ih (n - c.utf8Size)
      simp only [takeBytes, h, if_true, size_cons]
      omega
    · simp [takeBytes, h]

/-- A byte offset is a **boundary** of a text when a character starts or the text ends there. -/
def isBoundary (t : Text) (n : Nat) : Bool :=
  size (takeBytes n t) == n

/-- The bytes from offset `start` up to offset `stop`, for two boundaries in that order. -/
def slice (t : Text) (start stop : Nat) : Text :=
  takeBytes (stop - start) (dropBytes start t)

/-- The shortest beginning of a text that has at least `n` UTF-16 units, or the whole text. -/
def takeUnits (n : Nat) : Text → Text
  | [] => []
  | c :: t => if n = 0 then [] else c :: takeUnits (n - charUnits c) t

/-- What is left of a text once the given beginning is removed, if it begins so. -/
def after? : Text → Text → Option Text
  | [], t => some t
  | _ :: _, [] => none
  | p :: ps, c :: t => if p = c then after? ps t else none

theorem after?_eq_some_iff {p t r : Text} : after? p t = some r ↔ t = p ++ r := by
  induction p generalizing t with
  | nil => simp [after?]
  | cons a p ih =>
    cases t with
    | nil => simp [after?]
    | cons c t =>
      by_cases h : a = c
      · simp [after?, h, ih]
      · simp [after?, h, Ne.symm h]

/-! ### Letters and numbers -/

/-- The ASCII letters. -/
def isLetter (c : Char) : Bool :=
  ('a' ≤ c && c ≤ 'z') || ('A' ≤ c && c ≤ 'Z')

/-- The ASCII digits. -/
def isDigit (c : Char) : Bool :=
  '0' ≤ c && c ≤ '9'

/-- The characters of words: ASCII letters and digits, and the underscore. -/
def isWord (c : Char) : Bool :=
  isLetter c || isDigit c || c == '_'

/-- A number in decimal digits. -/
def ofNat (n : Nat) : Text :=
  Nat.toDigits 10 n

/-- An integer in decimal digits, with a sign if it is negative. -/
def ofInt : Int → Text
  | .ofNat n => ofNat n
  | .negSucc n => '-' :: ofNat (n + 1)

/-- ASCII capitals become small letters, and all else stays. -/
def foldAscii (t : Text) : Text :=
  t.map Char.toLower

end Text

end GrammarWorkbench
