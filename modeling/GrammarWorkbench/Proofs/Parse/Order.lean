import GrammarWorkbench.Proofs.Lexeme.Order
import GrammarWorkbench.Proofs.Parse.Clean

/-!
# A parse never goes back

The lexemes of a source stand in order, and a parse consumes them one after the other. So the last
consumed lexeme moves on only, and so does the place at which an error would be reported. Errors are
recorded at that place, not twice without a consumed lexeme in between, and are never taken back.

* `GrammarWorkbench.Parsing.Reaches.states` gives the **states behind the notifications** of a
  parse: each of them is later than the ones before it, in position and in the errors that it has.
* `GrammarWorkbench.Parsing.Reaches.reported` says that the diagnostics **increase in position**.
-/

namespace GrammarWorkbench

/-- What is not before a position that is not before `p` is not before `p`. -/
theorem Position.not_lt_trans {p q r : Position} (h : ¬q < p) (h' : ¬r < q) : ¬r < p := by
  simp only [lt_iff] at *
  omega

/-- Every position of a text comes after line zero. -/
theorem LineIndex.zero_lt_position (index : LineIndex) (offset : Nat) :
    (⟨0, 0⟩ : Position) < index.position offset :=
  Or.inl (Nat.succ_pos _)

namespace Parsing

variable {s s' s'' : Parsing} {g : Goal} {gs : List Goal} {n : Option Notification}

/-! ### The lexemes ahead -/

/-- The lexemes of a parse stand in order, before the end. -/
structure Ordered (s : Parsing) : Prop where
  rest : s.rest.Pairwise fun x y => x.position < y.position
  stop : ∀ x ∈ s.rest, x.position < s.stop

theorem Ordered.consume {x : Lexeme} {rest : List Lexeme} (h : s.Ordered)
    (hrest : s.rest = x :: rest) : (s.consume x rest).Ordered :=
  ⟨(List.pairwise_cons.mp (hrest ▸ h.rest)).2,
    fun y hy => h.stop y (hrest ▸ List.mem_cons_of_mem x hy)⟩

theorem Ordered.report (h : s.Ordered) (e : SyntaxError) : (s.report e).Ordered :=
  ⟨by simpa using h.rest, by simpa using h.stop⟩

/-- To consume a lexeme is to move on to a later one, or to the end. -/
theorem Ordered.lt_lookaheadPosition {x : Lexeme} {rest : List Lexeme} (h : s.Ordered)
    (hrest : s.rest = x :: rest) : x.position < (s.consume x rest).lookaheadPosition := by
  cases rest with
  | nil => exact h.stop x (by simp [hrest])
  | cons y rest => exact (List.pairwise_cons.mp (hrest ▸ h.rest)).1 y List.mem_cons_self

/-- **In order**: the last consumed lexeme stands before the ones that are left. -/
structure InOrder (s : Parsing) : Prop extends Ordered s where
  current : ∀ x ∈ s.rest, s.current < x.position

/-- The errors so far have been recorded one after the other: none after the next lexeme, and none
at the next lexeme if something has been consumed since the last error. -/
structure Reported (s : Parsing) : Prop where
  increasing : s.diagnostics.Pairwise fun d d' => d.position < d'.position
  behind : ∀ d ∈ s.diagnostics, ¬s.lookaheadPosition < d.position
  before : 0 < s.distance → ∀ d ∈ s.diagnostics, d.position < s.lookaheadPosition

/-- **Later**: the last consumed lexeme is not an earlier one, and there are no other errors but
further ones. -/
structure Later (s s' : Parsing) : Prop where
  current : ¬s'.current < s.current
  diagnostics : s.diagnostics <+: s'.diagnostics

theorem Later.refl (s : Parsing) : Later s s :=
  ⟨Position.lt_irrefl _, List.prefix_refl _⟩

theorem Later.trans (h : Later s s') (h' : Later s' s'') : Later s s'' :=
  ⟨Position.not_lt_trans h.current h'.current, h.diagnostics.trans h'.diagnostics⟩

/-! ### What the parts of a step do -/

theorem InOrder.report (h : s.InOrder) (e : SyntaxError) : (s.report e).InOrder :=
  ⟨h.toOrdered.report e, by simpa using h.current⟩

theorem InOrder.consume {x : Lexeme} {rest : List Lexeme} (h : s.InOrder)
    (hrest : s.rest = x :: rest) : (s.consume x rest).InOrder :=
  ⟨h.toOrdered.consume hrest, (List.pairwise_cons.mp (hrest ▸ h.rest)).1⟩

theorem InOrder.later_consume {x : Lexeme} {rest : List Lexeme} (h : s.InOrder)
    (hrest : s.rest = x :: rest) : Later s (s.consume x rest) := by
  have hlt := h.current x (by simp [hrest])
  exact ⟨Position.not_lt_of_lt hlt (Position.lt_irrefl _), List.prefix_refl _⟩

theorem later_report (s : Parsing) (e : SyntaxError) : Later s (s.report e) :=
  ⟨by simpa using Position.lt_irrefl s.current, isPrefix_report s e⟩

@[simp]
theorem report_lookaheadPosition (s : Parsing) (e : SyntaxError) :
    (s.report e).lookaheadPosition = s.lookaheadPosition := by
  simp [lookaheadPosition]

/-- An error is recorded after all the others. -/
theorem Reported.report (h : s.Reported) (e : SyntaxError) : (s.report e).Reported := by
  refine ⟨?_, ?_, ?_⟩
  · by_cases hd : minErrorDistance ≤ s.distance
    · rw [report_diagnostics_of_le hd, List.pairwise_append]
      refine ⟨h.increasing, List.pairwise_singleton _ _, ?_⟩
      intro d hmem d' hmem'
      obtain rfl := List.mem_singleton.mp hmem'
      exact h.before (by unfold minErrorDistance at hd; omega) d hmem
    · rw [Parsing.report, if_neg hd]
      exact h.increasing
  · rw [report_lookaheadPosition]
    rcases report_diagnostics s e with heq | heq
    · rw [heq]
      exact h.behind
    · rw [heq]
      intro d hmem
      rcases List.mem_append.mp hmem with hmem | hmem
      · exact h.behind d hmem
      · obtain rfl := List.mem_singleton.mp hmem
        exact Position.lt_irrefl _
  · intro hpos
    rw [report_distance] at hpos
    omega

/-- What is consumed leaves all errors behind. -/
theorem Reported.consume {x : Lexeme} {rest : List Lexeme} (h : s.Reported) (hs : s.Ordered)
    (hrest : s.rest = x :: rest) : (s.consume x rest).Reported := by
  have hlt := hs.lt_lookaheadPosition hrest
  have hx : s.lookaheadPosition = x.position := by simp [lookaheadPosition, hrest]
  have hbefore : ∀ d ∈ s.diagnostics, d.position < (s.consume x rest).lookaheadPosition := by
    intro d hd
    have hle := h.behind d hd
    rw [hx] at hle
    simp only [Position.lt_iff] at *
    omega
  refine ⟨h.increasing, ?_, fun _ => hbefore⟩
  intro d hd
  exact Position.not_lt_of_lt (hbefore d hd) (Position.lt_irrefl _)

/-- What is kept by dropping invalid lexemes: the order, and that errors increase. -/
theorem InOrder.dropInvalid {rest : List Lexeme} (h : s.InOrder) (hr : s.Reported)
    (hrest : s.rest = rest) :
    (s.dropInvalid rest).InOrder ∧ (s.dropInvalid rest).Reported ∧
      Later s (s.dropInvalid rest) := by
  induction rest generalizing s with
  | nil =>
    have heq : s.dropInvalid [] = s := by rw [Parsing.dropInvalid, ← hrest]
    rw [heq]
    exact ⟨h, hr, Later.refl s⟩
  | cons x rest ih =>
    have heq : { s with rest := x :: rest } = s := by rw [← hrest]
    unfold Parsing.dropInvalid
    rw [heq]
    split
    · exact ⟨h, hr, Later.refl s⟩
    · have hrest' := (report_rest s .invalidSymbol).trans hrest
      have hreport := h.report .invalidSymbol
      have hconsumed := (hr.report .invalidSymbol).consume hreport.toOrdered hrest'
      obtain ⟨hin, hrep, hlater⟩ := ih (hreport.consume hrest') hconsumed rfl
      exact ⟨hin, hrep, (later_report s _).trans ((hreport.later_consume hrest').trans hlater)⟩

/-! ### Steps and runs -/

/-- The goals play no part in the order. -/
theorem InOrder.withGoals (h : s.InOrder) (gs : List Goal) : { s with goals := gs }.InOrder :=
  ⟨⟨h.rest, h.stop⟩, h.current⟩

theorem Reported.withGoals (h : s.Reported) (gs : List Goal) : { s with goals := gs }.Reported :=
  ⟨h.increasing, h.behind, h.before⟩

/-- **One step goes on, never back.** -/
theorem InOrder.turn (h : s.InOrder) (hr : s.Reported) (ht : Turn s g gs n s') :
    s'.InOrder ∧ s'.Reported ∧ Later s s' := by
  cases ht with
  | pass => exact ⟨h.withGoals gs, hr.withGoals gs, ⟨Position.lt_irrefl _, List.prefix_refl _⟩⟩
  | tell => exact ⟨h.withGoals gs, hr.withGoals gs, ⟨Position.lt_irrefl _, List.prefix_refl _⟩⟩
  | note e =>
    obtain ⟨hcurrent, hdiag⟩ := later_report s e
    exact ⟨(h.report e).withGoals gs, (hr.report e).withGoals gs, ⟨hcurrent, hdiag⟩⟩
  | fail e =>
    obtain ⟨hcurrent, hdiag⟩ := later_report s e
    exact ⟨(h.report e).withGoals _, (hr.report e).withGoals _, ⟨hcurrent, hdiag⟩⟩
  | take x rest before next hrest =>
    obtain ⟨hin, hrep, hlater⟩ :=
      (h.consume hrest).dropInvalid (hr.consume h.toOrdered hrest) rfl
    obtain ⟨hcurrent, hdiag⟩ := (h.later_consume hrest).trans hlater
    exact ⟨hin.withGoals _, hrep.withGoals _, ⟨hcurrent, hdiag⟩⟩
  | skip x rest next hrest =>
    obtain ⟨hcurrent, hdiag⟩ := h.later_consume hrest
    exact ⟨(h.consume hrest).withGoals _, (hr.consume h.toOrdered hrest).withGoals _,
      ⟨hcurrent, hdiag⟩⟩
  | spoil before e =>
    obtain ⟨hcurrent, hdiag⟩ := later_report s e
    exact ⟨(h.report e).withGoals _, (hr.report e).withGoals _, ⟨hcurrent, hdiag⟩⟩

/-- Every state of a run is in order, and its errors increase. -/
theorem Reaches.reported {out : List Notification} (h : Reaches s out s') (hs : s.InOrder)
    (hr : s.Reported) : s'.InOrder ∧ s'.Reported :=
  h.invariant (P := fun s => s.InOrder ∧ s.Reported)
    (fun _ _ _ _ hP _ _ ht => ⟨(hP.1.turn hP.2 ht).1, (hP.1.turn hP.2 ht).2.1⟩) ⟨hs, hr⟩

/-- **The states behind the notifications**: each notification is the notice of a state, and these
states come one after the other, between the first and the last state of the run. -/
theorem Reaches.states {out : List Notification} (h : Reaches s out s') (hs : s.InOrder)
    (hr : s.Reported) :
    Later s s' ∧ ∃ l : List (Parsing × Checkpoint), out = l.map (fun p => p.1.notice p.2) ∧
      l.Pairwise (fun p q => Later p.1 q.1) ∧ ∀ p ∈ l, Later s p.1 ∧ Later p.1 s' := by
  -- The induction goes backward from the end of the run: the first step is put before the others.
  induction h with
  | refl s => exact ⟨Later.refl s, [], rfl, List.Pairwise.nil, by simp⟩
  | @step s s' g gs out _ _ ih =>
    have hturn := turn_step s g gs
    obtain ⟨hs', hr', hlater⟩ := hs.turn hr hturn
    obtain ⟨hend, l, hout, hpairwise, hbetween⟩ := ih hs' hr'
    have hfrom : ∀ p ∈ l, Later s p.1 ∧ Later p.1 s' := fun p hp =>
      ⟨hlater.trans (hbetween p hp).1, (hbetween p hp).2⟩
    refine ⟨hlater.trans hend, ?_⟩
    cases hn : (s.step g gs).1 with
    | none => exact ⟨l, by simpa using hout, hpairwise, hfrom⟩
    | some k =>
      rw [hn] at hturn
      obtain ⟨c, rfl, -⟩ := hturn.some_cases
      refine ⟨(s, c) :: l, by simp [hout], ?_, ?_⟩
      · exact List.pairwise_cons.mpr ⟨fun p hp => (hfrom p hp).1, hpairwise⟩
      · intro p hp
        rcases List.mem_cons.mp hp with rfl | hp
        · exact ⟨Later.refl _, hlater.trans hend⟩
        · exact hfrom p hp

/-- A source begins to be parsed in order, without an error. -/
theorem inOrder_start (source : Text) :
    (start (Lexeme.scan source) ((LineIndex.ofText source).position source.size)).InOrder := by
  refine ⟨⟨Lexeme.pairwise_scan source, fun x hx => Lexeme.position_lt_of_mem_scan hx⟩, ?_⟩
  intro x hx
  obtain ⟨hplace, -⟩ := Lexeme.scanFrom_spec (.ofText source) 0 source
  obtain ⟨-, -, hposition⟩ := hplace x (List.mem_filter.mp hx).1
  rw [hposition]
  exact LineIndex.zero_lt_position _ _

theorem reported_start (lexemes : List Lexeme) (stop : Position) :
    (start lexemes stop).Reported :=
  ⟨List.Pairwise.nil, by simp [start], by simp [start]⟩

end Parsing

end GrammarWorkbench
