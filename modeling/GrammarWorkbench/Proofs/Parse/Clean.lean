import GrammarWorkbench.Proofs.Parse.Steps

/-!
# Parses without an error

Whether a parse records an error is a matter of tokens alone: texts and positions play no part, and
neither does the distance between errors. `GrammarWorkbench.Goal.Clean` is the error-free parse as a
relation between goals and tokens, and `GrammarWorkbench.Parsing.run_diagnostics_eq_nil_iff` says
that a run ends without a diagnostic exactly when its goals and its tokens are so related.

The one thing that has to be seen is that **the first error is never suppressed**. Errors go
unrecorded while the last one is near, but the distance starts out large enough and grows until the
first error is reported, so that this one is recorded. A recorded error is never taken back.
-/

namespace GrammarWorkbench

/-- **The goals can be met from the tokens without an error.** A lexeme that is no token has no
token here, and none may follow a lexeme that is taken. -/
inductive Goal.Clean : List Goal → List (Option Token) → Prop
  /-- Nothing is left to be found. -/
  | done (ts : List (Option Token)) : Clean [] ts
  /-- The first goal is dropped. -/
  | pass {g : Goal} {gs : List Goal} {ts : List (Option Token)}
      (h : g.meet ts.head? = .still .pass) (hgs : Clean gs ts) : Clean (g :: gs) ts
  /-- The first goal is a checkpoint. -/
  | tell {g : Goal} {gs : List Goal} {ts : List (Option Token)} {c : Checkpoint}
      (h : g.meet ts.head? = .still (.tell c)) (hgs : Clean gs ts) : Clean (g :: gs) ts
  /-- The first goal takes a token. -/
  | take {g : Goal} {gs : List Goal} {t : Option Token} {ts : List (Option Token)}
      (before : Option Checkpoint) (next : List Goal) (h : g.move t = .take before next)
      (hts : ts.head? ≠ some none) (hgs : Clean (next ++ gs) ts) : Clean (g :: gs) (t :: ts)
  /-- The first goal skips a token. -/
  | skip {g : Goal} {gs : List Goal} {t : Option Token} {ts : List (Option Token)}
      (next : List Goal) (h : g.move t = .skip next) (hgs : Clean (next ++ gs) ts) :
      Clean (g :: gs) (t :: ts)

namespace Parsing

variable {s s' : Parsing} {g : Goal} {gs : List Goal}

/-! ### Diagnostics are only ever added -/

theorem isPrefix_report (s : Parsing) (e : SyntaxError) :
    s.diagnostics <+: (s.report e).diagnostics := by
  rcases report_diagnostics s e with h | h
  · exact h ▸ List.prefix_refl _
  · exact h ▸ List.prefix_append _ _

theorem isPrefix_dropInvalid (rest : List Lexeme) (s : Parsing) :
    s.diagnostics <+: (s.dropInvalid rest).diagnostics := by
  induction rest generalizing s with
  | nil => exact List.prefix_refl _
  | cons x rest ih =>
    unfold dropInvalid
    split
    · exact List.prefix_refl _
    · have hreport := isPrefix_report { s with rest := x :: rest } .invalidSymbol
      exact hreport.trans
        (ih ((({ s with rest := x :: rest }).report .invalidSymbol).consume x rest))

theorem isPrefix_turn {n : Option Notification} (h : Turn s g gs n s') :
    s.diagnostics <+: s'.diagnostics := by
  cases h with
  | pass => exact List.prefix_refl _
  | tell => exact List.prefix_refl _
  | note e => exact isPrefix_report s e
  | fail e => exact isPrefix_report s e
  | take x rest => exact isPrefix_dropInvalid rest (s.consume x rest)
  | skip => exact List.prefix_refl _
  | spoil before e => exact isPrefix_report s e

/-- **A recorded error stays recorded.** -/
theorem Reaches.isPrefix_diagnostics {out : List Notification} (h : Reaches s out s') :
    s.diagnostics <+: s'.diagnostics := by
  induction h with
  | refl s => exact List.prefix_refl _
  | @step s s' g gs out _ _ ih => exact (isPrefix_turn (turn_step s g gs)).trans ih

/-- Notifications on the way to a state without an error know of no error. -/
theorem Reaches.errorCount_eq_zero {out : List Notification} (h : Reaches s out s')
    (hnil : s'.diagnostics = []) : ∀ n ∈ out, n.errorCount = 0 := by
  intro n hn
  obtain ⟨before, after, rfl⟩ := List.append_of_mem hn
  obtain ⟨m, g, gs, m', -, -, hturn, hafter⟩ := h.split
  obtain ⟨c, rfl, -⟩ := hturn.some_cases
  have hprefix := (isPrefix_turn hturn).trans hafter.isPrefix_diagnostics
  rw [hnil, List.prefix_nil] at hprefix
  simp [notice, hprefix]

/-- Notifications on the way from a state with an error know of it. -/
theorem Reaches.errorCount_ne_zero {out : List Notification} (h : Reaches s out s')
    (hne : s.diagnostics ≠ []) : ∀ n ∈ out, n.errorCount ≠ 0 := by
  intro n hn
  obtain ⟨before, after, rfl⟩ := List.append_of_mem hn
  obtain ⟨m, g, gs, m', hbefore, -, hturn, -⟩ := h.split
  obtain ⟨c, rfl, -⟩ := hturn.some_cases
  have hprefix := hbefore.isPrefix_diagnostics
  intro hzero
  have hm : m.diagnostics = [] := List.length_eq_zero_iff.mp hzero
  rw [hm, List.prefix_nil] at hprefix
  exact hne hprefix

/-! ### The first error is recorded -/

/-- **No error so far**: nothing is recorded, and the next error will be. -/
def Fresh (s : Parsing) : Prop :=
  s.diagnostics = [] ∧ minErrorDistance ≤ s.distance

theorem Fresh.report_ne_nil (h : s.Fresh) (e : SyntaxError) : (s.report e).diagnostics ≠ [] := by
  rw [report_diagnostics_of_le h.2]
  simp

theorem Fresh.consume (h : s.Fresh) (x : Lexeme) (rest : List Lexeme) :
    (s.consume x rest).Fresh :=
  ⟨h.1, Nat.le_succ_of_le h.2⟩

/-- An invalid lexeme after a taken one is an error. -/
theorem Fresh.take_ne_nil (h : s.Fresh) {x : Lexeme} {rest : List Lexeme}
    (hrest : rest.head?.map Lexeme.token = some none) : (s.take x rest).diagnostics ≠ [] := by
  cases rest with
  | nil => simp at hrest
  | cons y rest =>
    have hy : y.token = none := by simpa using hrest
    have hne := (h.consume x (y :: rest)).report_ne_nil .invalidSymbol
    have hpre := isPrefix_dropInvalid rest
      (((s.consume x (y :: rest)).report .invalidSymbol).consume y rest)
    have heq : s.take x (y :: rest) =
        (((s.consume x (y :: rest)).report .invalidSymbol).consume y rest).dropInvalid rest := by
      simp only [take, dropInvalid, hy]
      rfl
    intro hnil
    rw [heq] at hnil
    rw [hnil, List.prefix_nil] at hpre
    exact hne hpre

/-- **The turns without an error.** What is taken is followed by no invalid lexeme. -/
inductive CleanTurn (s : Parsing) (g : Goal) (gs : List Goal) : Option Notification → Parsing → Prop
  | pass (h : g.meet s.lookahead = .still .pass) : CleanTurn s g gs none { s with goals := gs }
  | tell (c : Checkpoint) (h : g.meet s.lookahead = .still (.tell c)) :
      CleanTurn s g gs (some (s.notice c)) { s with goals := gs }
  | take (x : Lexeme) (rest : List Lexeme) (before : Option Checkpoint) (next : List Goal)
      (hrest : s.rest = x :: rest) (h : g.move x.token = .take before next)
      (hvalid : rest.head?.map Lexeme.token ≠ some none) :
      CleanTurn s g gs (before.map s.notice) { s.consume x rest with goals := next ++ gs }
  | skip (x : Lexeme) (rest : List Lexeme) (next : List Goal)
      (hrest : s.rest = x :: rest) (h : g.move x.token = .skip next) :
      CleanTurn s g gs none { s.consume x rest with goals := next ++ gs }

/-- **A turn that records no error is a clean one**, and the next error will be recorded again. -/
theorem Fresh.cleanTurn (h : s.Fresh) {n : Option Notification} (ht : Turn s g gs n s')
    (hnil : s'.diagnostics = []) : CleanTurn s g gs n s' ∧ s'.Fresh := by
  cases ht with
  | pass hg => exact ⟨.pass hg, h⟩
  | tell c hg => exact ⟨.tell c hg, h⟩
  | note e => exact absurd hnil (h.report_ne_nil e)
  | fail e => exact absurd hnil (h.report_ne_nil e)
  | take x rest before next hrest hg =>
    by_cases hvalid : rest.head?.map Lexeme.token = some none
    · exact absurd hnil (h.take_ne_nil hvalid)
    · rw [take_eq_consume hvalid]
      exact ⟨.take x rest before next hrest hg hvalid, h.consume x rest⟩
  | skip x rest next hrest hg => exact ⟨.skip x rest next hrest hg, h.consume x rest⟩
  | spoil before e => exact absurd hnil (h.report_ne_nil e)

/-- **A fact that every clean turn keeps holds as long as there is no error.** The fact may speak of
the notifications so far. -/
theorem Reaches.cleanInvariant {P : List Notification → Parsing → Prop} {lexemes : List Lexeme}
    {stop : Position} (hstart : P [] (start lexemes stop))
    (hstep : ∀ (heard : List Notification) (s : Parsing) (g : Goal) (gs : List Goal),
      s.goals = g :: gs → P heard s →
        ∀ n s', CleanTurn s g gs n s' → P (heard ++ n.toList) s')
    {out : List Notification} (h : Reaches (start lexemes stop) out s) (hnil : s.diagnostics = []) :
    P out s := by
  -- The induction goes forward from any state without an error, after any notifications.
  have hfrom : ∀ {m m' : Parsing} {out : List Notification}, Reaches m out m' →
      m'.diagnostics = [] → m.Fresh → ∀ heard, P heard m → P (heard ++ out) m' := by
    intro m m' out h
    induction h with
    | refl s =>
      intro _ _ heard hP
      rwa [List.append_nil]
    | @step s s' g gs out hgoals hr ih =>
      intro hnil hs heard hP
      have hmid : (s.step g gs).2.diagnostics = [] := by
        have hprefix := hr.isPrefix_diagnostics
        rwa [hnil, List.prefix_nil] at hprefix
      obtain ⟨hturn, hfresh⟩ := hs.cleanTurn (turn_step s g gs) hmid
      rw [← List.append_assoc]
      exact ih hnil hfresh _ (hstep heard s g gs hgoals hP _ _ hturn)
  exact hfrom h hnil ⟨rfl, Nat.le_refl _⟩ [] hstart

/-! ### Runs without an error -/

/-- The tokens of the lexemes that are not consumed. -/
def tokens (s : Parsing) : List (Option Token) :=
  s.rest.map Lexeme.token

theorem lookahead_eq (s : Parsing) : s.lookahead = s.tokens.head? := by
  simp [lookahead, tokens]

/-- **A run without an error is a clean one.** The induction is on the way through the parse; a
step that would not be clean has recorded an error by the time the run ends. -/
theorem Reaches.clean {out : List Notification} (h : Reaches s out s') (hs : s.Fresh)
    (hgoals : s'.goals = []) (hnil : s'.diagnostics = []) : Goal.Clean s.goals s.tokens := by
  induction h with
  | refl s =>
    rw [hgoals]
    exact .done _
  | @step s s' g gs out hg hr ih =>
    have hmid : (s.step g gs).2.diagnostics = [] := by
      have hprefix := hr.isPrefix_diagnostics
      rwa [hnil, List.prefix_nil] at hprefix
    obtain ⟨hturn, hfresh⟩ := hs.cleanTurn (turn_step s g gs) hmid
    have hclean := ih hfresh hgoals hnil
    rw [hg]
    generalize (s.step g gs).1 = n, (s.step g gs).2 = m at hturn hclean
    cases hturn with
    | pass h => exact .pass (lookahead_eq s ▸ h) hclean
    | tell c h => exact .tell (lookahead_eq s ▸ h) hclean
    | take x rest before next hrest h hvalid =>
      have hts : (rest.map Lexeme.token).head? ≠ some none := by simpa using hvalid
      simpa [tokens, hrest] using Goal.Clean.take before next h hts hclean
    | skip x rest next hrest h => simpa [tokens, hrest] using Goal.Clean.skip next h hclean

/-- **A clean run records no error.** -/
theorem diagnostics_run_of_clean {gs : List Goal} {ts : List (Option Token)}
    (h : Goal.Clean gs ts) :
    ∀ s : Parsing, s.goals = gs → s.tokens = ts → s.diagnostics = [] →
      s.run.2.diagnostics = [] := by
  -- The induction is on the clean parse: each of its rules is one step of the run.
  induction h with
  | done ts =>
    intro s hg _ hd
    rwa [run_of_goals_nil hg]
  | @pass g gs ts h _ ih =>
    rintro s hg rfl hd
    rw [run_of_goals_cons hg, step_of_meet_still s gs (lookahead_eq s ▸ h)]
    exact ih _ rfl rfl hd
  | @tell g gs ts c h _ ih =>
    rintro s hg rfl hd
    rw [run_of_goals_cons hg, step_of_meet_still s gs (lookahead_eq s ▸ h)]
    exact ih _ rfl rfl hd
  | @take g gs t ts before next h hts _ ih =>
    intro s hg hts' hd
    obtain ⟨x, rest, hrest, rfl, rfl⟩ : ∃ x rest, s.rest = x :: rest ∧ x.token = t ∧
        rest.map Lexeme.token = ts := List.map_eq_cons_iff.mp hts'
    have hinv : rest.head?.map Lexeme.token ≠ some none := by simpa using hts
    rw [run_of_goals_cons hg, step_of_move_take hrest h, take_eq_consume hinv]
    exact ih _ rfl rfl hd
  | @skip g gs t ts next h _ ih =>
    intro s hg hts' hd
    obtain ⟨x, rest, hrest, rfl, rfl⟩ : ∃ x rest, s.rest = x :: rest ∧ x.token = t ∧
        rest.map Lexeme.token = ts := List.map_eq_cons_iff.mp hts'
    rw [run_of_goals_cons hg, step_of_move_skip hrest h]
    exact ih _ rfl rfl hd

/-- **Whether a run records an error is a matter of goals and tokens.** -/
theorem run_diagnostics_eq_nil_iff (hs : s.Fresh) :
    s.run.2.diagnostics = [] ↔ Goal.Clean s.goals s.tokens :=
  ⟨(reaches_run s).clean hs (run_goals s), fun h => diagnostics_run_of_clean h s rfl rfl hs.1⟩

end Parsing

end GrammarWorkbench
