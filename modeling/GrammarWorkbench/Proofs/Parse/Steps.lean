import GrammarWorkbench.Parse.Run
import Mathlib.Data.List.Basic

/-!
# Runs of a parse, step by step

A parse is a sequence of steps, and nearly everything that can be said about a whole parse is said
about one step and carried along. This file says once what a step can do and how it is carried.

* `GrammarWorkbench.Parsing.Turn` lists the **seven turns** that a step can take, each with the
  entry of the table that makes it: five of them consume nothing, two consume a lexeme. Later
  proofs read this list, and never open `GrammarWorkbench.Parsing.step`.
* `GrammarWorkbench.Parsing.Reaches` relates a state to the states that come after it, together with
  the notifications on the way. `GrammarWorkbench.Parsing.reaches_run` says that a run is one such
  way, `GrammarWorkbench.Parsing.Reaches.invariant` carries a fact along it, and
  `GrammarWorkbench.Parsing.Reaches.split` finds the state that gave a notification.
-/

namespace GrammarWorkbench

/-! ### The moves that consume a token -/

namespace Move

variable {m : Move} {next goals more : List Goal}

/-- The move consumes the token, and the goals `next` take the place of the first one. -/
def Consumes (m : Move) (next : List Goal) : Prop :=
  (∃ before, m = take before next) ∨ m = skip next

@[simp]
theorem consumes_take {before : Option Checkpoint} :
    (take before goals).Consumes next ↔ goals = next := by
  simp [Consumes]

@[simp]
theorem consumes_skip : (skip goals).Consumes next ↔ goals = next := by
  simp [Consumes]

@[simp]
theorem not_consumes_still (s : Still) : ¬(still s).Consumes next := by
  simp [Consumes]

@[simp]
theorem not_consumes_pass : ¬pass.Consumes next := not_consumes_still _

@[simp]
theorem not_consumes_fail (e : SyntaxError) : ¬(fail e).Consumes next := not_consumes_still _

@[simp]
theorem not_consumes_spoil (c : Checkpoint) (e : SyntaxError) :
    ¬(spoil c e goals).Consumes next := by
  simp [Consumes]

theorem consumes_followedBy :
    (m.followedBy more).Consumes next ↔ ∃ goals, m.Consumes goals ∧ next = goals ++ more := by
  cases m <;> simp [followedBy, eq_comm]

/-- What a move announces at a token, before it consumes it or reports an error there. -/
def before? : Move → Option Checkpoint
  | take before _ => before
  | spoil before _ _ => some before
  | still _ | skip _ => none

@[simp]
theorem before?_followedBy (m : Move) (more : List Goal) :
    (m.followedBy more).before? = m.before? := by
  cases m <;> rfl

end Move

theorem Goal.consumes_optionMove {goals next : List Goal} {k : Token} {t : Option Token} :
    (optionMove k goals t).Consumes next ↔ t = some k ∧ goals = next := by
  unfold optionMove
  split <;> simp_all

namespace Parsing

variable {s s' : Parsing} {g : Goal} {gs : List Goal}

/-! ### What the parts of a step leave alone -/

@[simp]
theorem report_goals (s : Parsing) (e : SyntaxError) : (s.report e).goals = s.goals := by
  unfold report
  split <;> rfl

@[simp]
theorem report_current (s : Parsing) (e : SyntaxError) : (s.report e).current = s.current := by
  unfold report
  split <;> rfl

@[simp]
theorem report_stop (s : Parsing) (e : SyntaxError) : (s.report e).stop = s.stop := by
  unfold report
  split <;> rfl

/-- After an error the distance is counted from zero, recorded or not. -/
@[simp]
theorem report_distance (s : Parsing) (e : SyntaxError) : (s.report e).distance = 0 := by
  unfold report
  split <;> rfl

theorem report_diagnostics_of_le (h : minErrorDistance ≤ s.distance) (e : SyntaxError) :
    (s.report e).diagnostics = s.diagnostics ++ [⟨s.lookaheadPosition, e.message⟩] := by
  rw [report, if_pos h]

/-- **A report adds at most one diagnostic**, and its place is the next lexeme or the end. -/
theorem report_diagnostics (s : Parsing) (e : SyntaxError) :
    (s.report e).diagnostics = s.diagnostics ∨
      (s.report e).diagnostics = s.diagnostics ++ [⟨s.lookaheadPosition, e.message⟩] := by
  by_cases h : minErrorDistance ≤ s.distance
  · exact Or.inr (report_diagnostics_of_le h e)
  · exact Or.inl (by rw [report, if_neg h])

@[simp]
theorem consume_rest (s : Parsing) (x : Lexeme) (rest : List Lexeme) :
    (s.consume x rest).rest = rest := rfl

@[simp]
theorem consume_diagnostics (s : Parsing) (x : Lexeme) (rest : List Lexeme) :
    (s.consume x rest).diagnostics = s.diagnostics := rfl

/-- Where no invalid lexeme follows, taking a lexeme is consuming it. -/
theorem take_eq_consume {x : Lexeme} {rest : List Lexeme}
    (h : (rest.head?.map Lexeme.token) ≠ some none) : s.take x rest = s.consume x rest := by
  cases rest with
  | nil => rfl
  | cons y rest =>
    cases hy : y.token with
    | none => simp [hy] at h
    | some t => simp [take, dropInvalid, hy, consume]

/-! ### The turns of a step -/

/-- **The turns that a step can take**, with the entry of the table that makes each of them. -/
inductive Turn (s : Parsing) (g : Goal) (gs : List Goal) : Option Notification → Parsing → Prop
  /-- The goal is dropped. -/
  | pass (h : g.meet s.lookahead = .still .pass) : Turn s g gs none { s with goals := gs }
  /-- A checkpoint is announced. -/
  | tell (c : Checkpoint) (h : g.meet s.lookahead = .still (.tell c)) :
      Turn s g gs (some (s.notice c)) { s with goals := gs }
  /-- An error is reported, and parsing goes on. -/
  | note (e : SyntaxError) (h : g.meet s.lookahead = .still (.note e)) :
      Turn s g gs none { s.report e with goals := gs }
  /-- An error is reported, and the declaration is given up. -/
  | fail (e : SyntaxError) (h : g.meet s.lookahead = .still (.fail e)) :
      Turn s g gs none { s.report e with goals := unwind gs }
  /-- A lexeme is taken. -/
  | take (x : Lexeme) (rest : List Lexeme) (before : Option Checkpoint) (next : List Goal)
      (hrest : s.rest = x :: rest) (h : g.move x.token = .take before next) :
      Turn s g gs (before.map s.notice) { s.take x rest with goals := next ++ gs }
  /-- A lexeme is skipped. -/
  | skip (x : Lexeme) (rest : List Lexeme) (next : List Goal)
      (hrest : s.rest = x :: rest) (h : g.move x.token = .skip next) :
      Turn s g gs none { s.consume x rest with goals := next ++ gs }
  /-- A checkpoint is announced and an error reported, and other goals take the place of the first
  one. -/
  | spoil (before : Checkpoint) (e : SyntaxError) (next : List Goal)
      (h : g.meet s.lookahead = .spoil before e next) :
      Turn s g gs (some (s.notice before)) { s.report e with goals := next ++ gs }

theorem turn_stand {m : Still} (h : g.meet s.lookahead = .still m) :
    Turn s g gs (s.stand gs m).1 (s.stand gs m).2 := by
  cases m with
  | pass => exact .pass h
  | tell c => exact .tell c h
  | note e => exact .note e h
  | fail e => exact .fail e h

/-- **Every step is one of the turns.** -/
theorem turn_step (s : Parsing) (g : Goal) (gs : List Goal) :
    Turn s g gs (s.step g gs).1 (s.step g gs).2 := by
  unfold step
  cases hm : g.meet s.lookahead with
  | still m => exact turn_stand hm
  | take before next =>
    obtain ⟨x, rest, hrest, hmove⟩ := exists_cons_of_meet hm (by simp)
    simp only [act, get_of_cons hrest]
    exact .take x rest before next hrest hmove
  | skip next =>
    obtain ⟨x, rest, hrest, hmove⟩ := exists_cons_of_meet hm (by simp)
    simp only [act, advance_of_cons hrest]
    exact .skip x rest next hrest hmove
  | spoil before e next => exact .spoil before e next hm

/-- A step that drops the first goal. -/
theorem step_of_meet_still (s : Parsing) (gs : List Goal) {m : Still}
    (h : g.meet s.lookahead = .still m) : s.step g gs = s.stand gs m := by
  rw [step, h]
  rfl

/-- A step that takes a lexeme. -/
theorem step_of_move_take {x : Lexeme} {rest : List Lexeme} {before : Option Checkpoint}
    {next : List Goal} (hrest : s.rest = x :: rest) (h : g.move x.token = .take before next)
    (gs : List Goal) :
    s.step g gs = (before.map s.notice, { s.take x rest with goals := next ++ gs }) := by
  have hmeet : g.meet s.lookahead = .take before next := by simpa [lookahead, hrest] using h
  rw [step, hmeet, act, get_of_cons hrest]

/-- A step that skips a lexeme. -/
theorem step_of_move_skip {x : Lexeme} {rest : List Lexeme} {next : List Goal}
    (hrest : s.rest = x :: rest) (h : g.move x.token = .skip next) (gs : List Goal) :
    s.step g gs = (none, { s.consume x rest with goals := next ++ gs }) := by
  have hmeet : g.meet s.lookahead = .skip next := by simpa [lookahead, hrest] using h
  rw [step, hmeet, act, advance_of_cons hrest]

/-- **The turns that give a notification**: an announcement, or a token that is announced before it
is consumed or refused. -/
theorem Turn.some_cases {n : Notification} (h : Turn s g gs (some n) s') :
    ∃ c, n = s.notice c ∧
      (g.meet s.lookahead = .still (.tell c) ∨
        ∃ x rest, s.rest = x :: rest ∧ (g.move x.token).before? = some c) := by
  generalize hn : some n = o at h
  cases h with
  | tell c hm => exact ⟨c, Option.some.inj hn, Or.inl hm⟩
  | take x rest before next hrest hm =>
    cases before with
    | none => cases hn
    | some c => exact ⟨c, Option.some.inj hn, Or.inr ⟨x, rest, hrest, by rw [hm]; rfl⟩⟩
  | spoil before e next hm =>
    obtain ⟨x, rest, hrest, hmove⟩ := exists_cons_of_meet hm (by simp)
    exact ⟨before, Option.some.inj hn, Or.inr ⟨x, rest, hrest, by rw [hmove]; rfl⟩⟩
  | _ => cases hn

/-! ### Ways through a parse -/

/-- **The states after a state**, each with the notifications given on the way to it. -/
inductive Reaches : Parsing → List Notification → Parsing → Prop
  /-- A state reaches itself. -/
  | refl (s : Parsing) : Reaches s [] s
  /-- One more step at the beginning. -/
  | step {s s' : Parsing} {g : Goal} {gs : List Goal} {out : List Notification}
      (hgoals : s.goals = g :: gs) (h : Reaches (s.step g gs).2 out s') :
      Reaches s ((s.step g gs).1.toList ++ out) s'

/-- A run is a way through the parse. -/
theorem reaches_run (s : Parsing) : Reaches s s.run.1 s.run.2 := by
  fun_induction run s with
  | case1 s h => exact .refl s
  | case2 s g gs h this notices last hrun ih =>
    rw [hrun] at ih
    exact .step h ih

theorem run_of_goals_nil (h : s.goals = []) : s.run = ([], s) := by
  rw [run]
  split
  next => rfl
  next h' => simp [h] at h'

theorem run_of_goals_cons (h : s.goals = g :: gs) :
    s.run = ((s.step g gs).1.toList ++ (s.step g gs).2.run.1, (s.step g gs).2.run.2) := by
  rw [run]
  split
  next h' => simp [h] at h'
  next g' gs' h' =>
    obtain ⟨rfl, rfl⟩ : g = g' ∧ gs = gs' := by simpa using h.symm.trans h'
    rfl

/-- A run ends where no goal is left. -/
theorem run_goals (s : Parsing) : s.run.2.goals = [] := by
  fun_induction run s with
  | case1 s h => exact h
  | case2 s g gs h this notices last hrun ih => simpa [hrun] using ih

/-- **A fact that every step keeps holds at every state of a run.** -/
theorem Reaches.invariant {P : Parsing → Prop}
    (hstep : ∀ (s : Parsing) (g : Goal) (gs : List Goal), s.goals = g :: gs → P s →
      ∀ n s', Turn s g gs n s' → P s')
    {out : List Notification} (h : Reaches s out s') (hs : P s) : P s' := by
  induction h with
  | refl s => exact hs
  | @step s s' g gs out hgoals _ ih => exact ih (hstep s g gs hgoals hs _ _ (turn_step s g gs))

/-- **The state behind a notification**: somewhere on the way a step gave it, and the earlier
notifications are those on the way to that step. -/
theorem Reaches.split {before after : List Notification} {n : Notification}
    (h : Reaches s (before ++ n :: after) s') :
    ∃ m g gs m', Reaches s before m ∧ m.goals = g :: gs ∧ Turn m g gs (some n) m' ∧
      Reaches m' after s' := by
  generalize hout : before ++ n :: after = out at h
  induction h generalizing before with
  | refl s => simp at hout
  | @step s s' g gs out hgoals hr ih =>
    have hturn := turn_step s g gs
    cases hn : (s.step g gs).1 with
    | none =>
      rw [hn] at hout
      obtain ⟨m, g', gs', m', hm, hrest⟩ := ih hout
      refine ⟨m, g', gs', m', ?_, hrest⟩
      simpa [hn] using Reaches.step hgoals hm
    | some k =>
      rw [hn] at hout
      cases before with
      | nil =>
        obtain ⟨rfl, rfl⟩ : n = k ∧ after = out := by simpa using hout
        exact ⟨s, g, gs, _, .refl s, hgoals, hn ▸ hturn, hr⟩
      | cons b before =>
        obtain ⟨rfl, hout'⟩ : b = k ∧ before ++ n :: after = out := by simpa using hout
        obtain ⟨m, g', gs', m', hm, hrest⟩ := ih hout'
        refine ⟨m, g', gs', m', ?_, hrest⟩
        simpa [hn] using Reaches.step hgoals hm

/-- What comes after a state that comes after a state. -/
theorem Reaches.trans {m : Parsing} {out out' : List Notification} (h : Reaches s out m)
    (h' : Reaches m out' s') : Reaches s (out ++ out') s' := by
  induction h with
  | refl s => exact h'
  | step hgoals _ ih =>
    rw [List.append_assoc]
    exact .step hgoals (ih h')

end Parsing

end GrammarWorkbench
