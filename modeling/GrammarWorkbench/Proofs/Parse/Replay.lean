import GrammarWorkbench.Proofs.Parse.Layout
import Mathlib.Data.List.Induction

/-!
# The same beginning with another rest

What is parsed of a source does not depend on the rest of it, but for one lexeme: the next one.
Since the last lexeme was consumed, goals have been dropped because of it. So if a parse has come to
some state without an error, then a parse of the same lexemes up to there with **another rest**
comes to the goals that there were before any of those was dropped
(`GrammarWorkbench.Parsing.Reaches.replays`).

From there one more lexeme can be put to the test. The goals **welcome** a token if those before the
one that consumes it can all be dropped (`GrammarWorkbench.Goal.welcomes`). After a welcome lexeme
at the end of the source nothing can be wrong any more, except that something is missing
(`GrammarWorkbench.Parsing.Replays.position_eq_of_welcomes`).
-/

namespace GrammarWorkbench

/-- The move drops the first goal, and that is no error. -/
def Move.isIdle : Move → Bool
  | still .pass | still (.tell _) => true
  | _ => false

theorem Move.isIdle_iff {m : Move} :
    m.isIdle = true ↔ m = still .pass ∨ ∃ c, m = still (.tell c) := by
  unfold isIdle
  split <;> simp_all

namespace Goal

variable {g : Goal} {gs dropped : List Goal} {t : Option Token}

/-- **The goals welcome a token**: the first one that cannot be dropped consumes it. -/
def welcomes (t : Option Token) : List Goal → Bool
  | [] => false
  | g :: gs =>
    match g.move t with
    | .still .pass | .still (.tell _) => welcomes t gs
    | .take _ _ | .skip _ => true
    | _ => false

theorem welcomes_cons_of_isIdle (h : (g.move t).isIdle = true) :
    welcomes t (g :: gs) = welcomes t gs := by
  rcases Move.isIdle_iff.mp h with h | ⟨c, h⟩ <;> simp [welcomes, h]

theorem welcomes_append (h : ∀ g ∈ dropped, (g.move t).isIdle = true) :
    welcomes t (dropped ++ gs) = welcomes t gs := by
  induction dropped with
  | nil => rfl
  | cons g dropped ih =>
    rw [List.cons_append, welcomes_cons_of_isIdle (h g List.mem_cons_self),
      ih fun g' hg' => h g' (List.mem_cons_of_mem g hg')]

/-- What is dropped before a welcome token, and what consumes it. -/
theorem exists_of_welcomes (h : welcomes t gs = true) :
    ∃ dropped g more next, gs = dropped ++ g :: more ∧ (∀ g ∈ dropped, (g.move t).isIdle = true) ∧
      (g.move t).Consumes next := by
  induction gs with
  | nil => cases h
  | cons g gs ih =>
    have hidle : (g.move t).isIdle = true → ∃ dropped g' more next,
        g :: gs = dropped ++ g' :: more ∧ (∀ g ∈ dropped, (g.move t).isIdle = true) ∧
          (g'.move t).Consumes next := by
      intro hg
      rw [welcomes_cons_of_isIdle hg] at h
      obtain ⟨dropped, g', more, next, rfl, hdropped, hm⟩ := ih h
      refine ⟨g :: dropped, g', more, next, rfl, ?_, hm⟩
      simpa [hg] using hdropped
    cases hm : g.move t with
    | still m =>
      cases m with
      | pass => exact hidle (by rw [hm]; rfl)
      | tell c => exact hidle (by rw [hm]; rfl)
      | note e => simp [welcomes, hm] at h
      | fail e => simp [welcomes, hm] at h
    | take before next => exact ⟨[], g, gs, next, rfl, by simp, by simp [hm]⟩
    | skip next => exact ⟨[], g, gs, next, rfl, by simp, by simp [hm]⟩
    | spoil before e next => simp [welcomes, hm] at h

/-- Of the firm goals only announcements are dropped. -/
theorem exists_announce_of_isFirm (hg : g.isFirm = true) {la : Option (Option Token)}
    (h : (g.meet la).isIdle = true) : ∃ c, g = announce c ∧ c.isProduction = true := by
  cases g with
  | announce c => exact ⟨c, rfl, hg⟩
  | require | attributes | dottedAttributes | action | condition =>
    cases la with
    | none => cases h
    | some t =>
      simp only [meet_some, move, attributesMove, conditionMove] at h
      repeat' split at h
      all_goals cases h
  | _ => cases hg

/-- **Before an announcement of the productions nothing is dropped but announcements.** The
induction goes backward from the announcement, and each goal before it has to be firm. -/
theorem isIdle_of_laid {c : Checkpoint} (hlaid : Laid (dropped ++ announce c :: gs))
    (hc : c.isProduction = true) {la : Option (Option Token)}
    (h : ∀ g ∈ dropped, (g.meet la).isIdle = true) (t : Option Token) :
    ∀ g ∈ dropped, (g.move t).isIdle = true := by
  induction dropped using List.reverseRecOn generalizing c gs with
  | nil => simp
  | append_singleton dropped g ih =>
    rw [List.append_assoc, List.singleton_append] at hlaid
    have hfirm := isFirm_of_joins (laid_of_append hlaid).2.1 hc
    obtain ⟨c', rfl, hc'⟩ := exists_announce_of_isFirm hfirm (h g (by simp))
    have hdropped := ih hlaid hc' fun g hg => h g (List.mem_append_left _ hg)
    intro g hg
    rcases List.mem_append.mp hg with hg | hg
    · exact hdropped g hg
    · obtain rfl := List.mem_singleton.mp hg
      rfl

end Goal

namespace Parsing

variable {s s' : Parsing} {g : Goal} {gs dropped next : List Goal} {n : Option Notification}
  {heard out : List Notification} {lexemes read : List Lexeme}

/-! ### Ways that are known beforehand -/

/-- A state is run to the same end as every state after it. -/
theorem Reaches.run_eq (h : Reaches s out s') : s.run.2 = s'.run.2 := by
  induction h with
  | refl s => rfl
  | step hgoals _ ih => rw [run_of_goals_cons hgoals, ih]

/-- The goals that can be dropped are dropped. -/
theorem reaches_drop (h : ∀ g ∈ dropped, (g.meet s.lookahead).isIdle = true)
    (hg : s.goals = dropped ++ gs) : ∃ out, Reaches s out { s with goals := gs } := by
  induction dropped generalizing s with
  | nil =>
    obtain rfl : s.goals = gs := hg
    exact ⟨[], .refl s⟩
  | cons g dropped ih =>
    obtain ⟨out, hout⟩ : ∃ out, Reaches { s with goals := dropped ++ gs } out
        { s with goals := gs } :=
      ih (s := { s with goals := dropped ++ gs })
        (fun g' hg' => h g' (List.mem_cons_of_mem g hg')) rfl
    have hstep : (s.step g (dropped ++ gs)).2 = { s with goals := dropped ++ gs } := by
      rcases Move.isIdle_iff.mp (h g List.mem_cons_self) with hm | ⟨c, hm⟩
      · rw [step_of_meet_still s _ hm]
        rfl
      · rw [step_of_meet_still s _ hm]
        rfl
    exact ⟨_, .step hg (hstep ▸ hout)⟩

/-- The next lexeme is consumed by the first goal that cannot be dropped. -/
theorem reaches_consume {x : Lexeme} {rest : List Lexeme} (hg : s.goals = dropped ++ g :: gs)
    (hrest : s.rest = x :: rest) (hidle : ∀ g ∈ dropped, (g.move x.token).isIdle = true)
    (hm : (g.move x.token).Consumes next)
    (hvalid : rest.head?.map Lexeme.token = some none → g.move x.token = .skip next) :
    ∃ out, Reaches s out { s.consume x rest with goals := next ++ gs } := by
  have hla : s.lookahead = some x.token := by simp [lookahead, hrest]
  obtain ⟨out, hout⟩ := reaches_drop (fun g hg => by rw [hla]; exact hidle g hg) hg
  have hstep : (({ s with goals := g :: gs } : Parsing).step g gs).2 =
      { s.consume x rest with goals := next ++ gs } := by
    rcases hm with ⟨before, hm⟩ | hm
    · have hne : rest.head?.map Lexeme.token ≠ some none := by
        intro h
        cases hm.symm.trans (hvalid h)
      rw [step_of_move_take (s := { s with goals := g :: gs }) hrest hm, take_eq_consume hne]
      rfl
    · rw [step_of_move_skip (s := { s with goals := g :: gs }) hrest hm]
      rfl
  exact ⟨_, hstep ▸ hout.trans (.step rfl (.refl _))⟩

/-! ### The same beginning -/

/-- **A parse of `read` with any rest comes to the goals of a state**, before those that were
dropped since the last lexeme of `read`. Where the state does not have an invalid lexeme next,
neither may the rest begin with one. -/
structure Replays (lexemes read : List Lexeme) (dropped : List Goal) (s : Parsing) : Prop where
  split : lexemes = read ++ s.rest
  idle : ∀ g ∈ dropped, (g.meet s.lookahead).isIdle = true
  reaches : ∀ rest stop, (rest.head?.map Lexeme.token = some none → s.lookahead = some none) →
    ∃ out, Reaches (start (read ++ rest) stop) out
      ⟨dropped ++ s.goals, rest, s.current, s.distance, [], stop⟩

/-- A goal is dropped. -/
theorem Replays.drop (h : Replays lexemes read dropped s) (hg : s.goals = g :: gs)
    (hm : (g.meet s.lookahead).isIdle = true) :
    Replays lexemes read (dropped ++ [g]) { s with goals := gs } := by
  refine ⟨h.split, ?_, ?_⟩
  · intro g' hg'
    rcases List.mem_append.mp hg' with hg' | hg'
    · exact h.idle g' hg'
    · obtain rfl : g' = g := by simpa using hg'
      exact hm
  · intro rest stop hrest
    simpa [hg] using h.reaches rest stop hrest

/-- A lexeme is consumed. -/
theorem Replays.consume (h : Replays lexemes read dropped s) (hg : s.goals = g :: gs) {x : Lexeme}
    {rest : List Lexeme} (hrest : s.rest = x :: rest) (hm : (g.move x.token).Consumes next)
    (hvalid : rest.head?.map Lexeme.token = some none → g.move x.token = .skip next) :
    Replays lexemes (read ++ [x]) [] { s.consume x rest with goals := next ++ gs } := by
  have hla : s.lookahead = some x.token := by simp [lookahead, hrest]
  have hidle : ∀ g ∈ dropped, (g.move x.token).isIdle = true := by
    intro g hg
    simpa [hla] using h.idle g hg
  refine ⟨by simp [h.split, hrest], by simp, ?_⟩
  intro rest' stop hrest'
  -- The dropped goals met the lexeme that is consumed now, and meet it again.
  obtain ⟨out, hout⟩ := h.reaches (x :: rest') stop fun hx => hla.trans (by simpa using hx)
  obtain ⟨out', hout'⟩ := reaches_consume
    (s := ⟨dropped ++ s.goals, x :: rest', s.current, s.distance, [], stop⟩) (by rw [hg]) rfl hidle
    hm fun hnone => hvalid (hrest' hnone)
  rw [List.append_assoc]
  exact ⟨out ++ out', hout.trans hout'⟩

/-- One clean turn. -/
theorem Replays.cleanTurn (h : Replays lexemes read dropped s) (hg : s.goals = g :: gs)
    (ht : CleanTurn s g gs n s') : ∃ read dropped, Replays lexemes read dropped s' := by
  cases ht with
  | pass hm => exact ⟨_, _, h.drop hg (by rw [hm]; rfl)⟩
  | tell c hm => exact ⟨_, _, h.drop hg (by rw [hm]; rfl)⟩
  | take x rest before next hrest hm hvalid =>
    exact ⟨_, _, h.consume hg hrest (Or.inl ⟨before, hm⟩) fun hnone => absurd hnone hvalid⟩
  | skip x rest next hrest hm => exact ⟨_, _, h.consume hg hrest (Or.inr hm) fun _ => hm⟩

/-- **A beginning without an error is parsed alike whatever the rest.** -/
theorem Reaches.replays {stop : Position} (h : Reaches (start lexemes stop) heard s)
    (hnil : s.diagnostics = []) : ∃ read dropped, Replays lexemes read dropped s := by
  have hstart : Replays lexemes [] [] (start lexemes stop) :=
    ⟨rfl, by simp, fun rest stop _ => ⟨[], .refl _⟩⟩
  exact h.cleanInvariant (P := fun _ s => ∃ read dropped, Replays lexemes read dropped s)
    ⟨[], [], hstart⟩ (fun heard s g gs hg ⟨read, dropped, hP⟩ n s' ht => hP.cleanTurn hg ht) hnil

/-- The goals before any was dropped are laid out well. -/
theorem Replays.laid (h : Replays lexemes read dropped s) : Goal.Laid (dropped ++ s.goals) := by
  obtain ⟨out, hout⟩ := h.reaches s.rest s.stop id
  exact (hout.arranged rfl).laid

/-! ### One more lexeme -/

/-- **At the end of the source every error is at the end.** -/
theorem position_eq_of_rest_nil (hrest : s.rest = [])
    (hd : ∀ d ∈ s.diagnostics, d.position = s.stop) :
    ∀ d ∈ s.run.2.diagnostics, d.position = s.stop := by
  have hreport : ∀ (s' : Parsing) (e : SyntaxError), s'.rest = [] → s'.stop = s.stop →
      (∀ d ∈ s'.diagnostics, d.position = s.stop) →
        ∀ d ∈ (s'.report e).diagnostics, d.position = s.stop := by
    intro s' e hrest hstop hd
    rcases report_diagnostics s' e with h | h
    · rwa [h]
    · rw [h]
      intro d hmem
      rcases List.mem_append.mp hmem with hmem | hmem
      · exact hd d hmem
      · obtain rfl := List.mem_singleton.mp hmem
        simpa [lookaheadPosition, hrest] using hstop
  -- Nothing can be consumed any more, and only the turns without a lexeme are left.
  have hinv := (reaches_run s).invariant
    (P := fun s' => s'.rest = [] ∧ s'.stop = s.stop ∧ ∀ d ∈ s'.diagnostics, d.position = s.stop)
    (by
      intro s' g gs _ ⟨hrest, hstop, hd⟩ n s'' ht
      cases ht with
      | pass => exact ⟨hrest, hstop, hd⟩
      | tell => exact ⟨hrest, hstop, hd⟩
      | note e => exact ⟨by simpa using hrest, by simpa using hstop, hreport s' e hrest hstop hd⟩
      | fail e => exact ⟨by simpa using hrest, by simpa using hstop, hreport s' e hrest hstop hd⟩
      | take x rest before next hcons => cases hrest.symm.trans hcons
      | skip x rest next hcons => cases hrest.symm.trans hcons
      | spoil before e =>
        exact ⟨by simpa using hrest, by simpa using hstop, hreport s' e hrest hstop hd⟩)
    ⟨hrest, rfl, hd⟩
  exact hinv.2.2

/-- **A welcome lexeme at the end of the source is no error.** -/
theorem Replays.position_eq_of_welcomes (h : Replays lexemes read dropped s) {x : Lexeme}
    (hx : x.token ≠ none) (hwelcome : Goal.welcomes x.token (dropped ++ s.goals) = true)
    (stop : Position) :
    ∀ d ∈ (ParseResult.ofLexemes (read ++ [x]) stop).diagnostics, d.position = stop := by
  obtain ⟨out, hout⟩ := h.reaches [x] stop fun hnone => absurd (by simpa using hnone) hx
  obtain ⟨idle, g, gs, next, hgoals, hidle, hm⟩ := Goal.exists_of_welcomes hwelcome
  obtain ⟨out', hout'⟩ := reaches_consume
    (s := ⟨dropped ++ s.goals, [x], s.current, s.distance, [], stop⟩) hgoals rfl hidle hm (by simp)
  have hrun := (hout.trans hout').run_eq
  change ∀ d ∈ (start (read ++ [x]) stop).run.2.diagnostics, d.position = stop
  rw [hrun]
  exact position_eq_of_rest_nil rfl (by simp)

end Parsing

end GrammarWorkbench
