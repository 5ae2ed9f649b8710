import GrammarWorkbench.Text.Basic

/-!
# Binary floating-point numbers

A floating-point number of 64 bits is, apart from the infinities and the one value that is not a
number, a sign and a product `m * 2 ^ q` with `m < 2 ^ 53` and `-1074 ≤ q ≤ 971`. The significand
`m` is at least `2 ^ 52`, unless `q` has its least value.

A decimal is read as the number that is **nearest** to it, and as the one with the even significand
if two are. A decimal beyond the greatest number is read as infinite.
-/

namespace GrammarWorkbench

/-- A floating-point number of 64 bits. -/
inductive Binary64 where
  /-- The number `significand * 2 ^ exponent`, with its sign. -/
  | finite (negative : Bool) (significand : Nat) (exponent : Int)
  | infinite (negative : Bool)
  | nan
deriving DecidableEq, Repr

namespace Binary64

/-- A power of two. -/
def twoTo (n : Nat) : Nat := Nat.pow 2 n

/-- A power of ten. -/
def tenTo (n : Nat) : Nat := Nat.pow 10 n

/-- The exponent of the least positive number. -/
def leastExponent : Int := -1074

/-- The exponent of the greatest number. -/
def greatestExponent : Int := 971

/-- The bits of a significand. -/
def precision : Nat := 53

/-- The quotient of two numbers, rounded to the nearest integer, and to the even one of two. -/
def roundQuotient (num den : Nat) : Nat :=
  let q := num / den
  let r := num % den
  if 2 * r < den then q
  else if den < 2 * r then q + 1
  else if q % 2 = 0 then q else q + 1

/-- A positive quotient, scaled by a power of two: `num / den / 2 ^ q`, as a fraction. -/
def scaled (num den : Nat) (q : Int) : Nat × Nat :=
  (num * twoTo (-q).toNat, den * twoTo q.toNat)

/-- The exponent that a positive quotient is rounded at: the one that leaves a significand of the
full precision, as far as exponents go down. -/
def roundingExponent (num den : Nat) : Int :=
  let q : Int := (num.log2 : Int) - den.log2 - precision
  let (n, d) := scaled num den q
  max leastExponent (if n < d * twoTo precision then q else q + 1)

/-- The number nearest to a positive quotient. -/
def ofQuotient (negative : Bool) (num den : Nat) : Binary64 :=
  let q := roundingExponent num den
  let (n, d) := scaled num den q
  let m := roundQuotient n d
  let (m, q) := if m = twoTo precision then (twoTo (precision - 1), q + 1) else (m, q)
  if greatestExponent < q then infinite negative else finite negative m q

/-- The numbers with more decimal places than this before the point are infinite, and those with
more zeros than this after the point are zero. -/
def decimalLimit : Int := 400

/-- **The number nearest to a decimal** `digits * 10 ^ exponent`. -/
def ofDecimal (negative : Bool) (digits : Nat) (exponent : Int) : Binary64 :=
  let places := (Text.ofNat digits).length + exponent
  if digits = 0 ∨ places < -decimalLimit then finite negative 0 leastExponent
  else if decimalLimit < places then infinite negative
  else ofQuotient negative (digits * tenTo exponent.toNat) (tenTo (-exponent).toNat)

/-- Whether a number is zero, of either sign. -/
def isZero : Binary64 → Bool
  | finite _ m _ => m == 0
  | _ => false

end Binary64

end GrammarWorkbench
