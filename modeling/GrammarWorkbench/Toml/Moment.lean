import GrammarWorkbench.Toml.Number

/-!
# Dates and times of a TOML file

A moment is a date, a time of the day, or both with or without the distance from universal time. It
is written in one way only: with a `T` between date and time, with as many digits of the second as
it needs, at most nine, and with the distance in hours and minutes.

A moment that stands in a file has to be a possible one. A text that is read as a moment may also
name the hour 24, and a distance from universal time with any number of minutes, up to a whole day.
-/

namespace GrammarWorkbench.Toml

/-- A day. -/
structure Date where
  year : Nat
  month : Nat
  day : Nat
deriving DecidableEq, Repr

/-- A time of the day. -/
structure TimeOfDay where
  hour : Nat
  minute : Nat
  second : Nat
  nanosecond : Nat
deriving DecidableEq, Repr

/-- The distance from universal time. -/
inductive Offset where
  | universal
  | minutes (n : Int)
deriving DecidableEq, Repr

/-- A date, a time, or both. -/
inductive Moment where
  | date (d : Date)
  | time (t : TimeOfDay)
  | dateTime (d : Date) (t : TimeOfDay) (offset : Option Offset)
deriving DecidableEq, Repr

/-! ### Writing -/

/-- A number with at least the given number of digits. -/
def padded (width n : Nat) : Text :=
  let digits := Text.ofNat n
  List.replicate (width - digits.length) '0' ++ digits

/-- How a date is written. -/
def Date.display (d : Date) : Text :=
  padded 4 d.year ++ '-' :: padded 2 d.month ++ '-' :: padded 2 d.day

/-- How a time is written. -/
def TimeOfDay.display (t : TimeOfDay) : Text :=
  let fraction := ((padded 9 t.nanosecond).reverse.dropWhile (· == '0')).reverse
  padded 2 t.hour ++ ':' :: padded 2 t.minute ++ ':' :: padded 2 t.second ++
    if fraction.isEmpty then [] else '.' :: fraction

/-- How a distance from universal time is written. -/
def Offset.display : Offset → Text
  | universal => ['Z']
  | minutes n =>
    (if n < 0 then '-' else '+') :: padded 2 (n.natAbs / 60) ++ ':' :: padded 2 (n.natAbs % 60)

/-- **How a moment is written.** -/
def Moment.display : Moment → Text
  | date d => d.display
  | time t => t.display
  | dateTime d t offset =>
    d.display ++ 'T' :: t.display ++ (offset.map Offset.display).getD []

/-! ### Reading -/

/-- A number of exactly the given number of digits, within bounds. -/
def fixed (width low high : Nat) : Scan Nat := fun t =>
  let digits := t.take width
  let n := decimalValue digits
  if digits.length = width && digits.all Text.isDigit && low ≤ n && n ≤ high then
    some (n, t.drop width)
  else none

/-- Whether a year has a 29th of February. -/
def isLeapYear (year : Nat) : Bool :=
  year % 4 == 0 && (year % 100 != 0 || year % 400 == 0)

/-- The number of days of a month. -/
def daysIn (year month : Nat) : Nat :=
  if month = 2 then if isLeapYear year then 29 else 28
  else if [4, 6, 9, 11].contains month then 30
  else 31

/-- A date. -/
def dateScan : Scan Date :=
  .filterMap (fun ((year, month), day) =>
      if day ≤ daysIn year month then some ⟨year, month, day⟩ else none)
    (.pair
      (.pair (.before (fixed 4 0 9999) (.char '-')) (.before (fixed 2 1 12) (.char '-')))
      (fixed 2 1 31))

/-- The digits of a second after the point, of which nine count. -/
def nanoseconds : Scan Nat :=
  .map (fun t => decimalValue ((t ++ List.replicate 9 '0').take 9))
    (.after (.char '.') (.run Text.isDigit))

/-- How far the numbers of a moment go. -/
structure Bounds where
  /-- The last hour of a day. -/
  hour : Nat
  /-- The greatest numbers of hours and minutes in a distance from universal time. -/
  offsetHours : Nat
  offsetMinutes : Nat
  /-- The greatest distance from universal time, in minutes. -/
  offset : Nat

/-- The bounds for moments that stand in a file. -/
def Bounds.strict : Bounds :=
  ⟨23, 23, 59, 1439⟩

/-- The bounds for moments that stand in a text. -/
def Bounds.lenient : Bounds :=
  ⟨24, 99, 99, 1440⟩

/-- A time of the day. -/
def timeScan (b : Bounds) : Scan TimeOfDay :=
  .map (fun (((hour, minute), second), n) => ⟨hour, minute, second, n.getD 0⟩)
    (.pair
      (.pair
        (.pair (.before (fixed 2 0 b.hour) (.char ':')) (.before (fixed 2 0 59) (.char ':')))
        (fixed 2 0 60))
      (.optional nanoseconds))

/-- A distance from universal time in hours and minutes. -/
def minutesScan (b : Bounds) : Scan Offset :=
  .filterMap (fun (negative, hours, minutes) =>
      let n := 60 * hours + minutes
      if n ≤ b.offset then some (.minutes (signed negative n)) else none)
    (.pair (.or (.map (fun _ => false) (.char '+')) (.map (fun _ => true) (.char '-')))
      (.pair (.before (fixed 2 0 b.offsetHours) (.char ':')) (fixed 2 0 b.offsetMinutes)))

/-- A distance from universal time. -/
def offsetScan (b : Bounds) : Scan Offset :=
  .or (.map (fun _ => .universal) (.or (.char 'Z') (.char 'z'))) (minutesScan b)

/-- A time that follows a date, with its distance from universal time. -/
def laterTime (b : Bounds) : Scan (TimeOfDay × Option Offset) :=
  .after (.or (.char 'T') (.or (.char 't') (.char ' ')))
    (.pair (timeScan b) (.optional (offsetScan b)))

/-- A moment within bounds. -/
def momentScan (b : Bounds) : Scan Moment :=
  .or
    (.map (fun (d, rest) =>
        match rest with
        | some (t, offset) => .dateTime d t offset
        | none => .date d)
      (.pair dateScan (.optional (laterTime b))))
    (.map .time (timeScan b))

/-- **A moment** in a file. -/
def moment : Scan Moment :=
  momentScan .strict

/-- The moment that a whole text tells. -/
def Moment.ofText? (t : Text) : Option Moment :=
  match momentScan .lenient t with
  | some (m, []) => some m
  | _ => none

end GrammarWorkbench.Toml
