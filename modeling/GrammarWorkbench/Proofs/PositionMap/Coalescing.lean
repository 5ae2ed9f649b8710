import GrammarWorkbench.PositionMap.Basic
import Mathlib.Algebra.GroupWithZero.Nat
import Mathlib.Data.List.Chain
import Mathlib.Data.List.Induction

/-!
# Merged runs give the same answers

A position map merges a run with the last one if it continues it. So a map has fewer runs than were
recorded, and a position may be covered by a run that nobody recorded. This cannot be seen from
outside: the map answers like the plain list of all recorded runs
(`GrammarWorkbench.PositionMap.answer`), in which the first run that covers a position counts.

Recorded runs may overlap, repeat one another, or be empty, so it matters which run comes first. The
one thing to know is that **only neighbours are merged**: a merged run covers what its two parts
cover, and no other run stood between them (`GrammarWorkbench.PositionMap.answer_extend`).

What is known of a map and of the runs that were recorded in it is kept in one structure,
`GrammarWorkbench.PositionMap.Coalesced`. One more run keeps it.
-/

namespace GrammarWorkbench

namespace PositionMap

variable {runs recorded : List MapRun} {r last : MapRun} {line column : Nat}

theorem covers_iff : r.covers line column = true ↔
    r.line = line ∧ r.column ≤ column ∧ column < r.column + r.length := by
  simp [MapRun.covers, and_assoc]

theorem continuedBy_iff : last.continuedBy r = true ↔
    last.line = r.line ∧ last.column + last.length = r.column ∧ last.targetLine = r.targetLine ∧
      last.targetColumn + last.length = r.targetColumn := by
  simp [MapRun.continuedBy, and_assoc]

/-! ### What recording a run does -/

theorem extend_concat (init : List MapRun) (last r : MapRun) :
    extend (init ++ [last]) r =
      init ++ if last.continuedBy r then [{ last with length := last.length + r.length }]
        else [last, r] := by
  induction init with
  | nil => rfl
  | cons first init ih =>
    obtain ⟨second, rest, hrest⟩ : ∃ second rest, init ++ [last] = second :: rest :=
      List.exists_cons_of_ne_nil (by simp)
    rw [List.cons_append, hrest, extend, ← hrest, ih, List.cons_append]

/-- **What recording a run does**: it is put at the end, or the last run gets longer. -/
theorem extend_cases (runs : List MapRun) (r : MapRun) :
    (extend runs r = runs ++ [r] ∧ ∀ last ∈ runs.getLast?, last.continuedBy r = false) ∨
      ∃ init last, runs = init ++ [last] ∧ last.continuedBy r = true ∧
        extend runs r = init ++ [{ last with length := last.length + r.length }] := by
  rcases List.eq_nil_or_concat' runs with rfl | ⟨init, last, rfl⟩
  · exact Or.inl ⟨rfl, by simp⟩
  · rw [extend_concat]
    by_cases h : last.continuedBy r = true
    · exact Or.inr ⟨init, last, rfl, h, by rw [if_pos h]⟩
    · rw [if_neg h, List.append_assoc, List.singleton_append]
      exact Or.inl ⟨rfl, by simpa using h⟩

/-! ### The answer of a list of runs -/

/-- **The answer of a list of runs**: the place that the first run gives which covers the position,
if there is one. -/
def answer : List MapRun → Nat → Nat → Option (Nat × Nat)
  | [], _, _ => none
  | r :: runs, line, column =>
    if r.line = line ∧ r.column ≤ column ∧ column < r.column + r.length then
      some (r.targetLine, r.targetColumn + (column - r.column))
    else answer runs line column

/-- A map answers like the list of its own runs. -/
theorem lookup_eq_answer (m : PositionMap) (line column : Nat) :
    m.lookup line column = answer m.runs line column := by
  have hruns : ∀ runs : List MapRun,
      (runs.find? (·.covers line column)).map (·.origin column) = answer runs line column := by
    intro runs
    induction runs with
    | nil => rfl
    | cons r runs ih =>
      rw [answer, List.find?_cons]
      by_cases h : r.covers line column = true
      · rw [h, if_pos (covers_iff.mp h)]
        rfl
      · rw [Bool.not_eq_true] at h
        rw [h, if_neg (by rw [← covers_iff, h]; exact Bool.false_ne_true)]
        exact ih
  exact hruns m.runs

theorem answer_append (runs more : List MapRun) (line column : Nat) :
    answer (runs ++ more) line column =
      (answer runs line column).or (answer more line column) := by
  induction runs with
  | nil => rfl
  | cons r runs ih =>
    rw [List.cons_append, answer, answer, ih]
    split <;> rfl

/-- **A merged run answers like its two parts**, one after the other. -/
theorem answer_merged (h : last.continuedBy r = true) (line column : Nat) :
    answer [{ last with length := last.length + r.length }] line column =
      answer [last, r] line column := by
  obtain ⟨hline, hcolumn, htarget, htargetColumn⟩ := continuedBy_iff.mp h
  simp only [answer]
  by_cases hlast : last.line = line ∧ last.column ≤ column ∧ column < last.column + last.length
  · rw [if_pos hlast, if_pos (by omega)]
  · rw [if_neg hlast]
    by_cases hr : r.line = line ∧ r.column ≤ column ∧ column < r.column + r.length
    · -- The position lies in the second part, and its distance is counted from the first one.
      rw [if_pos hr, if_pos (by omega), htarget, ← htargetColumn, ← hcolumn, Option.some.injEq,
        Prod.mk.injEq]
      exact ⟨rfl, by omega⟩
    · rw [if_neg hr, if_neg (by omega)]

/-- **Merging changes no answer.** -/
theorem answer_extend (runs : List MapRun) (r : MapRun) (line column : Nat) :
    answer (extend runs r) line column = answer (runs ++ [r]) line column := by
  rcases extend_cases runs r with ⟨heq, -⟩ | ⟨init, last, rfl, hlast, heq⟩
  · rw [heq]
  · rw [heq, answer_append, answer_merged hlast, ← answer_append, List.append_assoc,
      List.singleton_append]

/-- **After one more run**, the old answers come first. -/
theorem lookup_record (m : PositionMap) (r : MapRun) (line column : Nat) :
    (m.record r).lookup line column = (m.lookup line column).or (answer [r] line column) := by
  rw [lookup_eq_answer, lookup_eq_answer, record, answer_extend, answer_append]

/-! ### A map and the runs recorded in it -/

/-- **What the runs of a map have to do with the recorded ones.** -/
structure Coalesced (recorded runs : List MapRun) : Prop where
  /-- They give the same answers. -/
  answers : ∀ line column, answer runs line column = answer recorded line column
  /-- None of them continues the one before it. -/
  apart : runs.IsChain (·.continuedBy · = false)
  /-- They are as long together. -/
  total : (runs.map (·.length)).sum = (recorded.map (·.length)).sum
  /-- Each of them ends where a recorded one ends, in both files. -/
  ends : ∀ r ∈ runs, ∃ q ∈ recorded, r.column + r.length = q.column + q.length ∧
    r.targetColumn + r.length = q.targetColumn + q.length

theorem coalesced_nil : Coalesced [] [] :=
  ⟨fun _ _ => rfl, .nil, rfl, nofun⟩

/-- **A run that continues no other one** is put at the end. -/
theorem Coalesced.concat (h : Coalesced recorded runs)
    (hr : ∀ last ∈ runs.getLast?, last.continuedBy r = false) :
    Coalesced (recorded ++ [r]) (runs ++ [r]) where
  answers line column := by rw [answer_append, answer_append, h.answers]
  apart := List.isChain_append.mpr ⟨h.apart, .singleton r, by simpa using hr⟩
  total := by simp [h.total]
  ends q hq := by
    rcases List.mem_append.mp hq with hq | hq
    · obtain ⟨p, hp, hends⟩ := h.ends q hq
      exact ⟨p, List.mem_append_left _ hp, hends⟩
    · exact ⟨q, List.mem_append_right _ hq, rfl, rfl⟩

/-- **A run that continues the last one** makes it longer. -/
theorem Coalesced.merge {init : List MapRun} (h : Coalesced recorded (init ++ [last]))
    (hr : last.continuedBy r = true) :
    Coalesced (recorded ++ [r])
      (init ++ [{ last with length := last.length + r.length }]) where
  answers line column := by
    rw [answer_append, answer_merged hr, ← answer_append, answer_append recorded, ← h.answers,
      ← answer_append, List.append_assoc, List.singleton_append]
  apart := by
    -- The merged run starts where the last one starts, and only that matters to the one before it.
    obtain ⟨hinit, -, hlast⟩ := List.isChain_append.mp h.apart
    refine List.isChain_append.mpr ⟨hinit, .singleton _, fun q hq p hp => ?_⟩
    obtain rfl := Option.some.inj hp
    exact hlast q hq last rfl
  total := by
    have := h.total
    simp only [List.map_append, List.map_cons, List.map_nil, List.sum_append, List.sum_cons,
      List.sum_nil] at this ⊢
    omega
  ends q hq := by
    rcases List.mem_append.mp hq with hq | hq
    · obtain ⟨p, hp, hends⟩ := h.ends q (List.mem_append_left _ hq)
      exact ⟨p, List.mem_append_left _ hp, hends⟩
    · obtain rfl := List.mem_singleton.mp hq
      obtain ⟨-, hcolumn, -, htargetColumn⟩ := continuedBy_iff.mp hr
      exact ⟨r, List.mem_append_right _ (List.mem_singleton_self r), by simp only; omega,
        by simp only; omega⟩

/-- **One more run.** -/
theorem Coalesced.extend (h : Coalesced recorded runs) (r : MapRun) :
    Coalesced (recorded ++ [r]) (extend runs r) := by
  rcases extend_cases runs r with ⟨heq, hr⟩ | ⟨init, last, rfl, hr, heq⟩
  · rw [heq]
    exact h.concat hr
  · rw [heq]
    exact h.merge hr

/-- A fresh map in which runs were recorded, one after the other. -/
def recordAll (name : Text) (recorded : List MapRun) : PositionMap :=
  recorded.foldl record { grammar := name }

theorem coalesced_recordAll (name : Text) (recorded : List MapRun) :
    Coalesced recorded (recordAll name recorded).runs := by
  induction recorded using List.reverseRecOn with
  | nil => exact coalesced_nil
  | append_singleton recorded r ih =>
    rw [recordAll, List.foldl_append]
    exact ih.extend r

/-- **Merging is invisible, and nothing is left to merge.** A map answers like the plain list of the
runs that were recorded in it. No run of the map continues the one before it, and its runs are as
long together as the recorded ones. No sum of a column and a length in the map is greater than those
of the recorded runs, for each run ends where a recorded one ends. -/
theorem lookup_recordAll (name : Text) (recorded : List MapRun) :
    let m := recordAll name recorded
    (∀ line column, m.lookup line column = answer recorded line column) ∧
      m.runs.IsChain (fun r next => r.continuedBy next = false) ∧
      (m.runs.map (·.length)).sum = (recorded.map (·.length)).sum ∧
      ∀ r ∈ m.runs, ∃ q ∈ recorded, r.column + r.length = q.column + q.length ∧
        r.targetColumn + r.length = q.targetColumn + q.length := by
  intro m
  have h := coalesced_recordAll name recorded
  refine ⟨fun line column => ?_, h.apart, h.total, h.ends⟩
  rw [lookup_eq_answer, h.answers]

/-- Two runs that are merged, an empty one that is merged too, and one that is covered by them. -/
example : (recordAll [] [⟨5, 0, 1, 0, 2⟩, ⟨5, 2, 1, 2, 0⟩, ⟨5, 2, 1, 2, 8⟩, ⟨5, 2, 9, 0, 3⟩]).runs =
    [⟨5, 0, 1, 0, 10⟩, ⟨5, 2, 9, 0, 3⟩] := by decide

end PositionMap

end GrammarWorkbench
