import GrammarWorkbench.Text.Basic

/-!
# Numerals

Numbers that are read from files and from the command line are non-negative and fit into 64 bits.
Their text is one or more ASCII digits, with one optional plus sign in front.
-/

namespace GrammarWorkbench.Text

/-- One more than the greatest number that can be read. -/
def numeralLimit : Nat := Nat.pow 2 64

/-- An integer, if it fits into 64 bits with a sign. -/
def signed64? (n : Int) : Option Int :=
  let limit : Int := Nat.pow 2 63
  if -limit ≤ n ∧ n < limit then some n else none

/-- The value of one or more ASCII digits below the limit. -/
def digits? (t : Text) : Option Nat :=
  if !t.isEmpty && t.all isDigit then
    let n := Nat.ofDigitChars 10 t 0
    if n < numeralLimit then some n else none
  else none

/-- The value of a numeral: digits with one optional plus sign in front. -/
def numeral? : Text → Option Nat
  | '+' :: t => digits? t
  | t => digits? t

end GrammarWorkbench.Text
