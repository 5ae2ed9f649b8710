import GrammarWorkbench.Text.Basic

/-!
# Punycode

Host names are written in ASCII. A name with other characters is written as its ASCII characters,
followed by the other ones in the order of their code points: each of them is given by a number that
tells both its code point and its place, counted from the one before.

The numbers are written to a **changing base**: the digits of a number are compared with thresholds
that follow from its neighbours, so that small steps need few digits.
-/

namespace GrammarWorkbench.Punycode

/-- A digit: a small letter or a decimal digit. -/
def digit (n : Nat) : Char :=
  Char.ofNat (if n < 26 then 0x61 + n else 0x30 + (n - 26))

/-- The threshold at the digit with the given weight. -/
def threshold (weight bias : Nat) : Nat :=
  max 1 (min 26 (weight - bias))

theorem one_le_threshold (weight bias : Nat) : 1 ≤ threshold weight bias :=
  Nat.le_max_left _ _

/-- The digits of a number. A digit below the threshold is the last one. -/
def digits (bias weight n : Nat) : Text :=
  let t := threshold weight bias
  if n < t then [digit n]
  else digit (t + (n - t) % (36 - t)) :: digits bias (weight + 36) ((n - t) / (36 - t))
termination_by n
decreasing_by
  have h := one_le_threshold weight bias
  have := Nat.div_le_self (n - threshold weight bias) (36 - threshold weight bias)
  omega

/-- How often a step is divided until it is small, and what is left of it. -/
def scale (step : Nat) : Nat × Nat :=
  if 455 < step then
    let (times, rest) := scale (step / 35)
    (times + 1, rest)
  else (0, step)
termination_by step

/-- The bias after a step, where `count` characters have been written. -/
def adapt (step count : Nat) (isFirst : Bool) : Nat :=
  let step := if isFirst then step / 700 else step / 2
  let (times, rest) := scale (step + step / count)
  36 * times + 36 * rest / (rest + 38)

/-- What has been written, and what the next number depends on. -/
structure State where
  output : Text := []
  /-- The distance from the character that was written last. -/
  step : Nat := 0
  bias : Nat := 72
  /-- The number of characters that have been written. -/
  count : Nat
  isFirst : Bool := true

/-- Go over one character of the name, in search of the characters with the code point `n`. -/
def State.pass (n : Nat) (s : State) (c : Char) : State :=
  if c.toNat < n then { s with step := s.step + 1 }
  else if c.toNat = n then
    { output := s.output ++ digits s.bias 36 s.step
      step := 0
      bias := adapt s.step (s.count + 1) s.isFirst
      count := s.count + 1
      isFirst := false }
  else s

/-- Write the characters with given code points, in increasing order, where `last` is the first code
point that has not been looked at. -/
def State.write (name : Text) (last : Nat) (s : State) : List Nat → State
  | [] => s
  | n :: rest =>
    let s := name.foldl (pass n) { s with step := s.step + (n - last) * (s.count + 1) }
    write name (n + 1) { s with step := s.step + 1 } rest

/-- **A name in ASCII.** -/
def encode (name : Text) : Text :=
  let isAscii (c : Char) := decide (c.toNat < 0x80)
  let plain := name.filter isAscii
  let others := ((name.filter (!isAscii ·)).map Char.toNat).mergeSort.eraseDups
  let tail := ({ count := plain.length } : State).write name 0x80 others
  plain ++ (if plain.isEmpty then [] else ['-']) ++ tail.output

end GrammarWorkbench.Punycode
