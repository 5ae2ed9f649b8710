import GrammarWorkbench.Number.Binary

/-!
# The shortest decimal of a number

A floating-point number stands for all reals that are rounded to it: an interval from halfway to the
number below up to halfway to the number above, with its ends if the significand is even. It is
written as the decimal in this interval with the **fewest digits**, and of two such decimals as the
nearer one, the greater one if both are equally near. The decimal is written out in full, without an
exponent and without a point if it is an integer.
-/

namespace GrammarWorkbench

/-- The decimal `digits * 10 ^ exponent`. -/
structure Decimal where
  digits : Nat
  exponent : Int
deriving DecidableEq, Repr

namespace Decimal

open Binary64 (twoTo tenTo precision leastExponent)

/-- A non-negative decimal, written out in full. -/
def display (d : Decimal) : Text :=
  if 0 ≤ d.exponent then Text.ofNat d.digits ++ List.replicate d.exponent.toNat '0'
  else
    let places := (-d.exponent).toNat
    let digits := Text.ofNat d.digits
    let padded := List.replicate (places + 1 - digits.length) '0' ++ digits
    let whole := padded.take (padded.length - places)
    let fraction := ((padded.drop (padded.length - places)).reverse.dropWhile (· == '0')).reverse
    if fraction.isEmpty then whole else whole ++ '.' :: fraction

/-- Compare a decimal with `n * 2 ^ q`. -/
def compareBinary (d : Decimal) (n : Nat) (q : Int) : Ordering :=
  compare (d.digits * tenTo d.exponent.toNat * twoTo (-q).toNat)
    (n * twoTo q.toNat * tenTo (-d.exponent).toNat)

/-- Whether a decimal is rounded to the number `m * 2 ^ q`. The number below a power of two is only
half as far away as the number above it. -/
def roundsTo (d : Decimal) (m : Nat) (q : Int) : Bool :=
  let narrow := m == twoTo (precision - 1) && leastExponent < q
  let low := d.compareBinary (4 * m - if narrow then 1 else 2) (q - 2)
  let high := d.compareBinary (4 * m + 2) (q - 2)
  if m % 2 = 0 then low != .lt && high != .gt else low == .gt && high == .lt

/-- The number of places of `num / den` before the point, or minus the number of zeros after it. -/
def magnitude (num den : Nat) : Int :=
  if den ≤ num then (Text.ofNat (num / den)).length
  else 1 - (Text.ofNat ((den - 1) / num)).length

/-- The nearer one of the two decimals with `n` digits around `m * 2 ^ q` that are rounded to it, if
there is one. -/
def withDigits? (m : Nat) (q : Int) (n : Nat) : Option Decimal :=
  let (num, den) := (m * twoTo q.toNat, twoTo (-q).toNat)
  let exponent := magnitude num den - n
  let unit := den * tenTo exponent.toNat
  let value := num * tenTo (-exponent).toNat
  let below : Decimal := ⟨value / unit, exponent⟩
  let above : Decimal := ⟨value / unit + 1, exponent⟩
  match below.roundsTo m q, above.roundsTo m q with
  | true, true => some (if 2 * (value % unit) < unit then below else above)
  | true, false => some below
  | false, true => some above
  | false, false => none

/-- The exact value of `m * 2 ^ q`. -/
def exact (m : Nat) (q : Int) : Decimal :=
  ⟨m * twoTo q.toNat * Nat.pow 5 (-q).toNat, -((-q).toNat : Int)⟩

/-- The shortest decimal that is rounded to `m * 2 ^ q`, for a positive `m`. -/
def shortest (m : Nat) (q : Int) : Decimal :=
  ((List.range 17).findSome? fun n => withDigits? m q (n + 1)).getD (exact m q)

end Decimal

namespace Binary64

/-- A number without its sign, written out in full. -/
def displayMagnitude (m : Nat) (q : Int) : Text :=
  if m = 0 then ['0'] else (Decimal.shortest m q).display

/-- The sign of a negative number. -/
def sign (negative : Bool) : Text :=
  if negative then ['-'] else []

/-- **How a number is written.** Zero keeps its sign. -/
def display : Binary64 → Text
  | finite negative m q => sign negative ++ displayMagnitude m q
  | infinite negative => sign negative ++ "inf".toList
  | nan => "NaN".toList

end Binary64

end GrammarWorkbench
