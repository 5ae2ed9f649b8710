import GrammarWorkbench.Proofs.Parse.Order

/-!
# Errors keep their distance

A diagnostic knows the position of an error, and parsing knows the number of lexemes that it has
consumed when it reports one. The two are the same thing: the lexemes of a source stand in order, so
that a position belongs to one of them only, or to the end.
`GrammarWorkbench.Diagnostic.place` is the number that goes with a position.

* **Where errors are recorded**: two of them have at least two lexemes between them, whatever has
  been suppressed, skipped or dropped on the way. The invariant is
  `GrammarWorkbench.Parsing.Spaced`: the lexemes that are counted since the last error have been
  consumed since the last recorded one, or since a later one that went unrecorded.
* **How the notices of a parse follow each other**:
  `GrammarWorkbench.ParseResult.increasing_ofSource` collects all that is ordered in the results of
  a parse, for every source.
-/

namespace GrammarWorkbench

/-! ### Places among the lexemes -/

/-- **The place of a diagnostic**: the index of the lexeme at which it stands. The end of the source
counts as one more lexeme. -/
def Diagnostic.place (lexemes : List Lexeme) (d : Diagnostic) : Nat :=
  lexemes.findIdx (·.position = d.position)

/-- The position of the lexeme with a given index, and of the end behind the last one. -/
def Lexeme.positionAt (lexemes : List Lexeme) (stop : Position) (i : Nat) : Position :=
  (lexemes[i]?.map Lexeme.position).getD stop

theorem Diagnostic.place_le (lexemes : List Lexeme) (d : Diagnostic) :
    d.place lexemes ≤ lexemes.length :=
  List.findIdx_le_length

namespace Parsing

variable {s s' : Parsing} {g : Goal} {gs : List Goal} {n : Option Notification}
  {lexemes rest : List Lexeme} {stop : Position} {x : Lexeme}

/-- **An error is reported at the number of consumed lexemes.** -/
theorem place_lookaheadPosition (h : (start lexemes stop).Ordered) (hstop : s.stop = stop)
    {read : List Lexeme} (hread : read ++ s.rest = lexemes) (message : Text) :
    (Diagnostic.mk s.lookaheadPosition message).place lexemes = read.length ∧
      Lexeme.positionAt lexemes stop read.length = s.lookaheadPosition := by
  subst hread
  -- No lexeme before the next one stands where it stands.
  have hbefore : read.findIdx (·.position = s.lookaheadPosition) = read.length := by
    refine List.findIdx_eq_length_of_false ?_
    intro y hy
    have hlt : y.position < s.lookaheadPosition := by
      unfold lookaheadPosition
      split
      next hrest => exact hstop ▸ h.stop y (List.mem_append_left _ hy)
      next x rest hrest =>
        rw [hrest] at h
        exact (List.pairwise_append.mp h.rest).2.2 y hy x List.mem_cons_self
    refine decide_eq_false ?_
    intro heq
    exact Position.lt_irrefl _ (heq ▸ hlt)
  rw [Diagnostic.place, List.findIdx_append, hbefore, if_neg (Nat.lt_irrefl _),
    Lexeme.positionAt, List.getElem?_append_right (Nat.le_refl _), Nat.sub_self]
  cases hrest : s.rest with
  | nil => exact ⟨by simp, by simp [lookaheadPosition, hrest, hstop]⟩
  | cons x rest =>
    have hx : s.lookaheadPosition = x.position := by simp [lookaheadPosition, hrest]
    exact ⟨by simp [List.findIdx_cons, hx], by simp [hx]⟩

/-! ### Errors are spaced -/

/-- **The errors of a parse of these lexemes are spaced**: each of them is recorded at its place,
two lexemes or more after the one before it. What is counted since the last error has been consumed
after all recorded ones. -/
structure Spaced (lexemes : List Lexeme) (stop : Position) (s : Parsing) : Prop where
  stop_eq : s.stop = stop
  rest : s.rest <:+ lexemes
  stands : ∀ d ∈ s.diagnostics, Lexeme.positionAt lexemes stop (d.place lexemes) = d.position
  apart : s.diagnostics.Pairwise fun d d' => d.place lexemes + 2 ≤ d'.place lexemes
  behind : ∀ d ∈ s.diagnostics, d.place lexemes + s.distance + s.rest.length ≤ lexemes.length

theorem spaced_start (lexemes : List Lexeme) (stop : Position) :
    Spaced lexemes stop (start lexemes stop) :=
  ⟨rfl, List.suffix_refl _, by simp [start], List.Pairwise.nil, by simp [start]⟩

/-- The goals play no part in it. -/
theorem Spaced.withGoals (h : Spaced lexemes stop s) (gs : List Goal) :
    Spaced lexemes stop { s with goals := gs } :=
  ⟨h.stop_eq, h.rest, h.stands, h.apart, h.behind⟩

/-- **A recorded error is two lexemes away from the others.** -/
theorem Spaced.report (h : Spaced lexemes stop s) (hordered : (start lexemes stop).Ordered)
    (e : SyntaxError) : Spaced lexemes stop (s.report e) := by
  obtain ⟨read, hread⟩ := h.rest
  have hlength : read.length + s.rest.length = lexemes.length := by
    rw [← hread, List.length_append]
  obtain ⟨hplace, hposition⟩ := place_lookaheadPosition hordered h.stop_eq hread e.message
  have hnear : ∀ d ∈ s.diagnostics, d.place lexemes + s.rest.length ≤ lexemes.length := by
    intro d hd
    have hbehind := h.behind d hd
    omega
  by_cases hd : minErrorDistance ≤ s.distance
  · have hdiagnostics := report_diagnostics_of_le hd e
    refine ⟨by simpa using h.stop_eq, by simpa using h.rest, ?_, ?_, ?_⟩
    · rw [hdiagnostics]
      intro d hmem
      rcases List.mem_append.mp hmem with hmem | hmem
      · exact h.stands d hmem
      · obtain rfl := List.mem_singleton.mp hmem
        rw [hplace, hposition]
    · rw [hdiagnostics, List.pairwise_append]
      refine ⟨h.apart, List.pairwise_singleton _ _, ?_⟩
      intro d hmem d' hmem'
      obtain rfl := List.mem_singleton.mp hmem'
      have hbehind := h.behind d hmem
      rw [hplace]
      unfold minErrorDistance at hd
      omega
    · rw [hdiagnostics, report_distance, report_rest]
      intro d hmem
      rcases List.mem_append.mp hmem with hmem | hmem
      · exact hnear d hmem
      · obtain rfl := List.mem_singleton.mp hmem
        rw [hplace]
        omega
  · -- An error that goes unrecorded starts the count again, which asks for less.
    rw [Parsing.report, if_neg hd]
    exact ⟨h.stop_eq, h.rest, h.stands, h.apart, hnear⟩

/-- A consumed lexeme is counted once. -/
theorem Spaced.consume (h : Spaced lexemes stop s) (hrest : s.rest = x :: rest) :
    Spaced lexemes stop (s.consume x rest) := by
  refine ⟨h.stop_eq, ?_, h.stands, h.apart, ?_⟩
  · have hsuffix := h.rest
    rw [hrest] at hsuffix
    exact (List.suffix_cons x rest).trans hsuffix
  · intro d hd
    have hbehind := h.behind d hd
    rw [hrest, List.length_cons] at hbehind
    simp only [Parsing.consume]
    omega

theorem Spaced.dropInvalid (h : Spaced lexemes stop s) (hordered : (start lexemes stop).Ordered)
    (hrest : s.rest = rest) : Spaced lexemes stop (s.dropInvalid rest) := by
  induction rest generalizing s with
  | nil =>
    have heq : s.dropInvalid [] = s := by rw [Parsing.dropInvalid, ← hrest]
    rwa [heq]
  | cons x rest ih =>
    have heq : { s with rest := x :: rest } = s := by rw [← hrest]
    unfold Parsing.dropInvalid
    rw [heq]
    split
    · exact h
    · exact ih ((h.report hordered _).consume ((report_rest s _).trans hrest)) rfl

/-- **Every turn keeps errors apart.** -/
theorem Spaced.turn (h : Spaced lexemes stop s) (hordered : (start lexemes stop).Ordered)
    (ht : Turn s g gs n s') : Spaced lexemes stop s' := by
  cases ht with
  | pass => exact h.withGoals gs
  | tell => exact h.withGoals gs
  | note e => exact (h.report hordered e).withGoals gs
  | fail e => exact (h.report hordered e).withGoals _
  | take x rest before next hrest =>
    exact ((h.consume hrest).dropInvalid hordered rfl).withGoals _
  | skip x rest next hrest => exact (h.consume hrest).withGoals _
  | spoil before e => exact (h.report hordered e).withGoals _

/-- **The errors of every parse are spaced.** -/
theorem Reaches.spaced {out : List Notification} (h : Reaches (start lexemes stop) out s)
    (hordered : (start lexemes stop).Ordered) : Spaced lexemes stop s :=
  h.invariant (fun _ _ _ _ hs _ _ ht => hs.turn hordered ht) (spaced_start lexemes stop)

end Parsing

/-! ### The results of a parse in order -/

namespace ParseResult

variable (source : Text)

/-- Parsing begins with a notice, before anything is consumed. -/
theorem head?_notifications :
    (ofSource source).notifications.head?.map Notification.current = some ⟨0, 0⟩ := by
  have hgoals : (Parsing.start (Lexeme.scan source)
      ((LineIndex.ofText source).position source.size)).goals =
        .announce .start :: Goal.grammar.tail := rfl
  rw [ofSource, ofLexemes, Parsing.run_of_goals_cons hgoals,
    Parsing.step_of_meet_still (m := .tell .start)]
  · rfl
  · cases Parsing.lookahead _ <;> rfl

/-- **The way of the parse through a notice**: the state that gave it, and the end. -/
theorem exists_way {before after : List Notification} {n : Notification}
    (h : (ofSource source).notifications = before ++ n :: after) :
    ∃ s g gs s' last, Parsing.Reaches (.start (Lexeme.scan source)
        ((LineIndex.ofText source).position source.size)) before s ∧
      s.goals = g :: gs ∧ Parsing.Turn s g gs (some n) s' ∧ Parsing.Reaches s' after last ∧
      last.goals = [] ∧ last.diagnostics = (ofSource source).diagnostics := by
  have hrun := Parsing.reaches_run
    (.start (Lexeme.scan source) ((LineIndex.ofText source).position source.size))
  have hend := Parsing.run_goals
    (.start (Lexeme.scan source) ((LineIndex.ofText source).position source.size))
  change Parsing.Reaches _ (ofSource source).notifications _ at hrun
  rw [h] at hrun
  obtain ⟨s, g, gs, s', hbefore, hg, hturn, hafter⟩ := hrun.split
  exact ⟨s, g, gs, s', _, hbefore, hg, hturn, hafter, hend, rfl⟩

/-- The state of the parse that gave a notice. -/
theorem exists_state {before after : List Notification} {n : Notification}
    (h : (ofSource source).notifications = before ++ n :: after) :
    ∃ s g gs s', Parsing.Reaches (.start (Lexeme.scan source)
        ((LineIndex.ofText source).position source.size)) before s ∧
      s.goals = g :: gs ∧ Parsing.Turn s g gs (some n) s' := by
  obtain ⟨s, g, gs, s', -, hbefore, hg, hturn, -⟩ := exists_way source h
  exact ⟨s, g, gs, s', hbefore, hg, hturn⟩

/-- **The next lexeme at a notice stands after the last consumed one.** -/
theorem current_lt_lookahead {n : Notification} (hn : n ∈ (ofSource source).notifications)
    {x : Lexeme} (hx : n.lookahead = some x) : n.current < x.position := by
  obtain ⟨before, after, hout⟩ := List.append_of_mem hn
  obtain ⟨m, g, gs, m', hbefore, -, hturn⟩ := exists_state source hout
  obtain ⟨c, rfl, -⟩ := hturn.some_cases
  obtain ⟨hinOrder, -⟩ :=
    hbefore.reported (Parsing.inOrder_start source) (Parsing.reported_start _ _)
  exact hinOrder.current x (List.mem_of_mem_head? hx)

/-- **A diagnostic stands at a lexeme**, or at the end of the source. -/
theorem exists_lexeme_of_mem {source : Text} {e : Diagnostic}
    (h : e ∈ (ofSource source).diagnostics) :
    e.position = (LineIndex.ofText source).position source.size ∨
      ∃ x ∈ Lexeme.scan source, x.position = e.position := by
  have hrun := Parsing.reaches_run (.start (Lexeme.scan source)
    ((LineIndex.ofText source).position source.size))
  have hspaced := hrun.spaced (Parsing.inOrder_start source).toOrdered
  have hstands := hspaced.stands e h
  rw [Lexeme.positionAt] at hstands
  cases hx : (Lexeme.scan source)[e.place (Lexeme.scan source)]? with
  | none =>
    rw [hx] at hstands
    exact Or.inl hstands.symm
  | some x =>
    rw [hx] at hstands
    exact Or.inr ⟨x, List.mem_of_getElem? hx, hstands⟩

/-- **The results of a parse are in order**, for every source. The notices begin before the first
lexeme. From one to a later one, the last consumed lexeme is never an earlier one, errors only
become more, and the first error stays what it is; it is the first error of the whole parse. The
next lexeme at a notice comes after the last consumed one. The diagnostics stand one after the
other, each at the lexeme whose index is its place or at the end, and from one to a later one at
least two lexemes are consumed. -/
theorem increasing_ofSource :
    let parse := ofSource source
    let lexemes := Lexeme.scan source
    let stop := (LineIndex.ofText source).position source.size
    parse.notifications.head?.map Notification.current = some ⟨0, 0⟩ ∧
      (parse.notifications.Pairwise fun n m =>
        ¬m.current < n.current ∧ n.errorCount ≤ m.errorCount ∧
          ∀ e, n.firstError = some e → m.firstError = some e) ∧
      (∀ n ∈ parse.notifications,
        (∀ x, n.lookahead = some x → n.current < x.position) ∧
          ∀ e, n.firstError = some e → parse.firstError = some e) ∧
      (parse.diagnostics.Pairwise fun d d' =>
        d.position < d'.position ∧ d.place lexemes + 2 ≤ d'.place lexemes) ∧
      ∀ d ∈ parse.diagnostics, d.place lexemes ≤ lexemes.length ∧
        Lexeme.positionAt lexemes stop (d.place lexemes) = d.position := by
  intro parse lexemes stop
  have hrun := Parsing.reaches_run (.start lexemes stop)
  have hinOrder : (Parsing.start lexemes stop).InOrder := Parsing.inOrder_start source
  have hstart := Parsing.reported_start lexemes stop
  obtain ⟨-, l, hout, hpairwise, hbetween⟩ := hrun.states hinOrder hstart
  have hnotifications : parse.notifications = l.map (fun p => p.1.notice p.2) := hout
  have hspaced := hrun.spaced hinOrder.toOrdered
  have hfirst : ∀ {ds ds' : List Diagnostic}, ds <+: ds' → ∀ e,
      ds.head?.map Diagnostic.position = some e → ds'.head?.map Diagnostic.position = some e := by
    rintro (_ | ⟨d, ds⟩) _ ⟨more, rfl⟩ e he
    · cases he
    · exact he
  refine ⟨head?_notifications source, ?_, ?_, ?_, ?_⟩
  · rw [hnotifications, List.pairwise_map]
    refine hpairwise.imp ?_
    intro p q hlater
    exact ⟨hlater.current, hlater.diagnostics.length_le, hfirst hlater.diagnostics⟩
  · intro n hn
    refine ⟨fun x hx => current_lt_lookahead source hn hx, ?_⟩
    rw [hnotifications] at hn
    obtain ⟨p, hp, rfl⟩ := List.mem_map.mp hn
    exact hfirst (hbetween p hp).2.diagnostics
  · exact (hrun.reported hinOrder hstart).2.increasing.and hspaced.apart
  · intro d hd
    exact ⟨d.place_le lexemes, hspaced.stands d hd⟩

end ParseResult

end GrammarWorkbench
