import GrammarWorkbench.Address.Escape
import GrammarWorkbench.Address.HostLetter
import GrammarWorkbench.Address.Punycode
import GrammarWorkbench.Text.Composition

/-!
# Hosts

The host of an address is a name or a number. Names are written with ordinary letters, their parts
in Punycode where they are not in ASCII. There are short numbers of four bytes, and long numbers of
eight groups of hexadecimal digits in brackets. A number can be written in several ways, and is
always shown in the same one.
-/

namespace GrammarWorkbench.Host

/-! ### Names -/

/-- A part of a host name in ASCII. -/
def asciiPart (part : Text) : Text :=
  if part.all (·.toNat < 0x80) then part else "xn--".toList ++ Punycode.encode part

/-- **A host name in ASCII.** -/
def asciiName (t : Text) : Text :=
  let parts := Text.splitAt '.' (Text.compose (t.flatMap HostLetter.ordinary))
  ['.'].intercalate (parts.map asciiPart)

/-- The characters that no host has. -/
def forbidden : List Char :=
  ['\x00', '\t', '\n', '\r', ' ', '#', '/', ':', '<', '>', '?', '@', '[', '\\', ']', '^', '|']

/-- The characters that no host name has. -/
def isForbiddenInName (c : Char) : Bool :=
  forbidden.contains c || c == '%' || c.toNat < 0x20 || c.toNat == 0x7F

/-! ### Short numbers -/

/-- The value of a text to a base. -/
def numberTo? (base : Nat) (t : Text) : Option Nat :=
  t.foldl (fun n c => n.bind fun n =>
    (Address.hexValue? c).bind fun d => if d < base then some (base * n + d) else none) (some 0)

/-- A part of a short number: hexadecimal after `0x`, octal after a zero, or decimal. -/
def shortPart? : Text → Option Nat
  | [] => none
  | '0' :: 'x' :: t | '0' :: 'X' :: t => numberTo? 16 t
  | '0' :: c :: t => numberTo? 8 (c :: t)
  | t => numberTo? 10 t

/-- The parts of a name. A point at the end does not count. -/
def nameParts (t : Text) : List Text :=
  let parts := Text.splitAt '.' t
  if 1 < parts.length ∧ parts.getLast? = some [] then parts.dropLast else parts

/-- Whether the last part of a name is a number. Such a name is a short number or nothing. -/
def endsInNumber (t : Text) : Bool :=
  match (nameParts t).getLast? with
  | some part => (!part.isEmpty && part.all Text.isDigit) || (shortPart? part).isSome
  | none => false

/-- The number of parts of which the last one fills all bytes that are left. -/
def joinParts? (parts : List Nat) : Option Nat :=
  match parts.reverse with
  | [] => none
  | last :: rest =>
    if 3 < rest.length ∨ rest.any (255 < ·) ∨ Nat.pow 256 (4 - rest.length) ≤ last then none
    else
      some (((List.range 4).zip rest.reverse).foldl
        (fun n (i, part) => n + part * Nat.pow 256 (3 - i)) last)

/-- A short number, as four decimal numbers with points between them. -/
def displayShort (n : Nat) : Text :=
  ['.'].intercalate
    ([n / 16777216, n / 65536 % 256, n / 256 % 256, n % 256].map Text.ofNat)

/-- **Read a short number.** -/
def short? (t : Text) : Option Nat :=
  ((nameParts t).mapM shortPart?).bind joinParts?

/-! ### Long numbers -/

/-- A group of a long number: one to four hexadecimal digits. -/
def group? (t : Text) : Option Nat :=
  if t.isEmpty ∨ 4 < t.length then none else numberTo? 16 t

/-- A decimal number of one byte without a zero in front. -/
def byte? (t : Text) : Option Nat :=
  if t.isEmpty ∨ (1 < t.length ∧ t.head? = some '0') then none
  else (numberTo? 10 t).bind fun n => if n < 256 then some n else none

/-- Two groups that are written as a short number. -/
def shortGroups? (t : Text) : Option (List Nat) :=
  match (Text.splitAt '.' t).mapM byte? with
  | some [a, b, c, d] => some [256 * a + b, 256 * c + d]
  | _ => none

/-- Groups with colons between them. The last one may be a short number if `isEnd`. -/
def groups? (isEnd : Bool) (t : Text) : Option (List Nat) :=
  if t.isEmpty then some []
  else
    let parts := Text.splitAt ':' t
    let last := parts.getLast?.getD []
    if isEnd ∧ last.contains '.' then
      (parts.dropLast.mapM group?).bind fun l => (shortGroups? last).map (l ++ ·)
    else parts.mapM group?

/-- Cut a text at the first two colons in a row. -/
def cutGap? : Text → Option (Text × Text)
  | ':' :: ':' :: t => some ([], t)
  | c :: t => (cutGap? t).map fun (a, b) => (c :: a, b)
  | [] => none

/-- **Read a long number**: its eight groups. Two colons stand for one or more groups that are
zero. -/
def long? (t : Text) : Option (List Nat) :=
  match cutGap? t with
  | some (before, after) => do
    let front ← groups? false before
    let back ← groups? true after
    let gap := 8 - (front.length + back.length)
    if gap = 0 then none else some (front ++ List.replicate gap 0 ++ back)
  | none => (groups? true t).bind fun l => if l.length = 8 then some l else none

/-- How many groups at the beginning are zero. -/
def zeros (l : List Nat) : Nat :=
  (l.takeWhile (· == 0)).length

/-- Where the longest row of groups that are zero begins, and how long it is. Of rows of one length
the first one counts. -/
def longestGap : List Nat → Nat × Nat
  | [] => (0, 0)
  | g :: l =>
    let (start, length) := longestGap l
    let here := zeros (g :: l)
    if here ≠ 0 ∧ length ≤ here then (0, here) else (start + 1, length)

/-- Groups with colons between them. -/
def displayGroups (l : List Nat) : Text :=
  [':'].intercalate (l.map (Nat.toDigits 16))

/-- A long number, in brackets. The longest row of groups that are zero is left out, unless it is a
single one. -/
def displayLong (l : List Nat) : Text :=
  let (start, length) := longestGap l
  let inner :=
    if length < 2 then displayGroups l
    else displayGroups (l.take start) ++ [':', ':'] ++ displayGroups (l.drop (start + length))
  '[' :: inner ++ [']']

/-! ### Hosts -/

/-- The text between brackets. -/
def bracketed? (t : Text) : Option Text :=
  match t with
  | '[' :: t => if t.getLast? = some ']' then some t.dropLast else none
  | _ => none

/-- **Read the host** of an address with a well-known scheme. -/
def special? (t : Text) : Option Text :=
  if t.head? = some '[' then ((bracketed? t).bind long?).map displayLong
  else
    match (Address.unescape? t).map asciiName with
    | none => none
    | some name =>
      if name.isEmpty ∨ name.any isForbiddenInName then none
      else if endsInNumber name then (short? name).map displayShort
      else some name

/-- Read the host of any other address. Names are kept as they are. -/
def other? (t : Text) : Option Text :=
  if t.head? = some '[' then ((bracketed? t).bind long?).map displayLong
  else if t.any forbidden.contains then none
  else some (Address.escape .plain t)

end GrammarWorkbench.Host
