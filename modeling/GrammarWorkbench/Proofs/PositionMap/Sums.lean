import GrammarWorkbench.PositionMap.Sums
import Mathlib.Data.List.Basic

/-!
# When the sums of a map fit 64 bits

Looking a position up is one computation for every way of adding, and two facts relate what it gives
in different ways.

* Where all sums of a map fit 64 bits, every exact way of adding finds the place that numbers without
  a limit give (`GrammarWorkbench.PositionMap.lookupBy_of_fits`).
* A computation that does not stop gives what the same computation with sums that are cut gives
  (`GrammarWorkbench.PositionMap.agrees_lookupBy`): it has come across no other sums than those that
  fit.
-/

namespace GrammarWorkbench

namespace Sum64

variable {μ : Type → Type} [Monad μ] {α β : Type}

/-- A way of adding is exact where a sum fits 64 bits. -/
def IsExact (add : Nat → Nat → μ Nat) : Prop :=
  ∀ a b, a + b < Text.numeralLimit → add a b = pure (a + b)

theorem isExact_wrapping : IsExact wrapping :=
  fun _ _ h => Nat.mod_eq_of_lt h

theorem isExact_checked : IsExact checked :=
  fun _ _ h => if_pos h

/-- A computation that may stop, and one that does not: if the first gives something, it is what the
second gives. -/
def Agrees (x : Option α) (y : Id α) : Prop :=
  ∀ a, x = some a → y.run = a

theorem agrees_pure (a : α) : Agrees (pure a) (pure a) := by
  rintro b ⟨⟩
  rfl

theorem Agrees.bind {x : Option α} {y : Id α} {f : α → Option β} {g : α → Id β}
    (h : Agrees x y) (hf : ∀ a, Agrees (f a) (g a)) : Agrees (x >>= f) (y >>= g) := by
  intro b hb
  obtain ⟨a, ha, hfa⟩ := Option.bind_eq_some_iff.mp hb
  rw [Id.run_bind, h a ha]
  exact hf a b hfa

/-- **A sum that fits is the sum that is cut.** -/
theorem agrees_sum (a b : Nat) : Agrees (checked a b) (wrapping a b) := by
  intro c hc
  rw [checked] at hc
  split at hc
  next h =>
    cases hc
    exact Nat.mod_eq_of_lt h
  next => cases hc

end Sum64

open Sum64

variable {μ : Type → Type} [Monad μ] {add : Nat → Nat → μ Nat} {line column : Nat}

namespace MapRun

variable {r : MapRun}

/-- The sums of a run fit 64 bits: its end in the generated file and in the grammar, and its line in
the grammar, counted from one. -/
def Fits (r : MapRun) : Prop :=
  r.column + r.length < Text.numeralLimit ∧ r.targetColumn + r.length < Text.numeralLimit ∧
    r.targetLine + 1 < Text.numeralLimit

theorem covers_iff : r.covers line column = true ↔
    r.line = line ∧ r.column ≤ column ∧ column < r.column + r.length := by
  simp [covers, and_assoc]

variable [LawfulMonad μ]

theorem coversBy_of_fits (hadd : IsExact add) (h : r.Fits) :
    r.coversBy add line column = pure (r.covers line column) := by
  rw [coversBy, covers]
  split
  next hat => simp [hadd _ _ h.1, hat.1, hat.2]
  next hat =>
    have hfalse : (r.line == line && decide (r.column ≤ column)) = false := by
      simpa [Bool.eq_false_iff] using hat
    rw [hfalse, Bool.false_and]

theorem originBy_of_fits (hadd : IsExact add) (h : r.Fits) (hcovers : r.covers line column = true) :
    r.originBy add column = pure (r.origin column) := by
  obtain ⟨-, hle, hlt⟩ := covers_iff.mp hcovers
  have hsum : r.targetColumn + (column - r.column) < Text.numeralLimit := by
    have := h.2.1
    omega
  rw [originBy, hadd _ _ hsum, pure_bind]
  rfl

end MapRun

namespace PositionMap

variable {m : PositionMap}

/-- The sums of all runs of a map fit 64 bits. -/
def Fits (m : PositionMap) : Prop :=
  ∀ r ∈ m.runs, r.Fits

/-- **Where all sums fit, a position is looked up in numbers without a limit.** -/
theorem lookupBy_of_fits [LawfulMonad μ] (hadd : IsExact add) (h : m.Fits) :
    m.lookupBy add line column = pure (m.lookup line column) := by
  obtain ⟨grammar, runs⟩ := m
  rw [lookupBy, lookup]
  induction runs with
  | nil => rfl
  | cons r runs ih =>
    obtain ⟨hr, hruns⟩ := List.forall_mem_cons.mp h
    rw [lookupRunsBy, MapRun.coversBy_of_fits hadd hr, pure_bind, List.find?_cons]
    cases hcovers : r.covers line column with
    | false => exact ih hruns
    | true => simp [MapRun.originBy_of_fits hadd hr hcovers]

/-- A place that is found can be counted from one. -/
theorem lookup_lt_of_fits (h : m.Fits) {place : Nat × Nat}
    (hplace : m.lookup line column = some place) :
    place.1 + 1 < Text.numeralLimit ∧ place.2 + 1 < Text.numeralLimit := by
  rw [lookup, Option.map_eq_some_iff] at hplace
  obtain ⟨r, hfind, rfl⟩ := hplace
  obtain ⟨-, htarget, hline⟩ := h r (List.mem_of_find?_eq_some hfind)
  have hcovers : r.covers line column = true := by simpa using List.find?_some hfind
  obtain ⟨-, hle, hlt⟩ := MapRun.covers_iff.mp hcovers
  have hcolumn : r.targetColumn + (column - r.column) + 1 ≤ r.targetColumn + r.length := by omega
  exact ⟨hline, Nat.lt_of_le_of_lt hcolumn htarget⟩

/-- **A position that is looked up without stopping** is looked up as with sums that are cut. -/
theorem agrees_lookupBy (m : PositionMap) (line column : Nat) :
    Agrees (m.lookupBy checked line column) (m.lookupBy wrapping line column) := by
  obtain ⟨grammar, runs⟩ := m
  rw [lookupBy, lookupBy]
  induction runs with
  | nil => exact agrees_pure none
  | cons r runs ih =>
    have hcovers : Agrees (r.coversBy checked line column) (r.coversBy wrapping line column) := by
      rw [MapRun.coversBy, MapRun.coversBy]
      split
      · exact (agrees_sum _ _).bind fun stop => agrees_pure _
      · exact agrees_pure false
    refine hcovers.bind fun covered => ?_
    cases covered with
    | false => exact ih
    | true =>
      have horigin : Agrees (r.originBy checked column) (r.originBy wrapping column) :=
        (agrees_sum _ _).bind fun targetColumn => agrees_pure _
      exact horigin.bind fun origin => agrees_pure (some origin)

-- The end of this run does not fit: the program stops, or the end comes before the run.
example :
    let greatest := Text.numeralLimit - 1
    let m : PositionMap := { grammar := ['G'], runs := [⟨0, greatest, 4, 2, 3⟩] }
    m.lookupBy checked 0 greatest = none ∧ (m.lookupBy wrapping 0 greatest).run = none ∧
      m.lookup 0 greatest = some (4, 2) := by
  decide

end PositionMap

end GrammarWorkbench
