import GrammarWorkbench.Proofs.Parse.Steps
import Mathlib.Logic.Function.Iterate
import Mathlib.Logic.Relation

/-!
# Parsing makes progress

A parse comes to an end on every list of lexemes, well-formed or not, because nothing in it can go
round without reading on. What goes round are the **loops**: a goal that puts itself back
(`GrammarWorkbench.Goal.loop?`) as long as its condition holds (`GrammarWorkbench.Loop.goesOn`), and
the phrases that may stand inside themselves.

The machine itself would go round for ever on another table: a move can put goals back and consume
nothing, and it can consume at the end of the source, where nothing is left. That it does not is
shown in two steps.

* **One step** at the head of a loop that goes on consumes a lexeme, or ends the loop, or puts a
  recovery before it (`GrammarWorkbench.Goal.continues_meet`). The last case is a declaration that
  fails at its first token. Nothing is consumed in this step, but the next one cannot but consume:
  there the recovery has an unterminated string before it
  (`GrammarWorkbench.Parsing.Next.ahead_of_resumes`).
* **Many steps** that consume nothing leave fewer goals, or end where a recovery is about to consume
  (`GrammarWorkbench.Parsing.ahead_or_stays_of_transGen`). A loop that has come back to its head,
  with the same goals behind it, is neither, whatever happened on the way, errors and recoveries
  included; nor is an expression inside an expression.

`GrammarWorkbench.Parsing.Progress` puts together what this means for a parse, and
`GrammarWorkbench.Parsing.progress_start` says that every parse has it.
-/

namespace GrammarWorkbench

/-- **The loops of a parse.** How deep the brackets of host code are nested makes no difference. -/
inductive Loop where
  | preamble
  | globalCode
  | charSets
  | setOperations
  | tokenDeclarations (s : TokenSection)
  | commentDeclarations
  | ignoreSets
  | tokenFactors
  | tokenAlternatives
  /-- The search for the productions. -/
  | productionsOption
  | productions
  | attributes
  | dottedAttributes
  | action
  | condition
  | factors
  | alternatives
  | recovery
deriving DecidableEq, Repr

namespace Loop

/-- Whether a loop reads host code, to which only something inside it puts an end. -/
def isHostCode : Loop → Bool
  | attributes | dottedAttributes | action | condition => true
  | _ => false

/-- The condition of a loop at a lexeme. -/
def test : Loop → Option Token → Bool
  | preamble, t => t != some .compilerKw
  | globalCode, t => !t.any Token.startsSection
  | charSets, t | productions, t => t == some .ident
  | setOperations, t => t == some .plus || t == some .minus
  | tokenDeclarations _, t => t.any fun k => k.isSymbol || k == .badString
  | commentDeclarations, t => t == some .commentsKw
  | ignoreSets, t => t == some .ignoreKw
  | tokenFactors, t => t.any Token.startsTokenFactor
  | factors, t => t.any Token.startsFactor
  | tokenAlternatives, t | alternatives, t => t == some .bar
  | productionsOption, t => t != some .productionsKw && t != some .endKw
  | recovery, t => !t.any Token.isSectionKeyword
  | attributes, _ | dottedAttributes, _ | action, _ | condition, _ => true

/-- **The condition under which a loop goes on**, at a lexeme or at the end of the source. -/
def goesOn (l : Loop) : Option (Option Token) → Bool
  | none => l.isHostCode
  | some t => l.test t

end Loop

namespace Goal

variable {g : Goal} {l : Loop} {t : Option Token} {m : Move}

/-- The loop at whose head a goal stands. -/
def loop? : Goal → Option Loop
  | preamble => some .preamble
  | globalCode => some .globalCode
  | charSets => some .charSets
  | setOperations => some .setOperations
  | tokenDeclarations s => some (.tokenDeclarations s)
  | commentDeclarations => some .commentDeclarations
  | ignoreSets => some .ignoreSets
  | tokenFactors => some .tokenFactors
  | tokenAlternatives => some .tokenAlternatives
  | productionsOption => some .productionsOption
  | productions => some .productions
  | attributes _ => some .attributes
  | dottedAttributes => some .dottedAttributes
  | action => some .action
  | condition _ => some .condition
  | factors => some .factors
  | alternatives => some .alternatives
  | recovery => some .recovery
  | _ => none

theorem eq_recovery_of_loop? (h : g.loop? = some .recovery) : g = recovery := by
  cases g <;> cases h
  rfl

/-- **What the table may do with a loop that goes on.** -/
inductive Continues (l : Loop) : Move → Prop
  /-- A round: a token is consumed, and the loop is put back behind its body. -/
  | round {m : Move} (body : List Goal) (head : Goal) (h : m.Consumes (body ++ [head]))
      (hl : head.loop? = some l) : Continues l m
  /-- The last round: a token is consumed, and the loop is not put back. -/
  | last {m : Move} (next : List Goal) (h : m.Consumes next) (hl : ∀ g ∈ next, g.loop? ≠ some l) :
      Continues l m
  /-- Nothing is consumed, and the loop is put back behind a recovery. -/
  | failed (c : Checkpoint) (e : SyntaxError) (body : List Goal) (head : Goal)
      (hl : head.loop? = some l) : Continues l (.spoil c e (recovery :: (body ++ [head])))
  /-- An error ends the declaration that the loop belongs to. -/
  | gaveUp (e : SyntaxError) : Continues l (.still (.fail e))

theorem continues_skip (hl : g.loop? = some l) : Continues l (.skip [g]) :=
  .round [] g (Or.inr rfl) hl

theorem continues_take_nil : Continues l (.take none []) :=
  .last [] (Or.inl ⟨none, rfl⟩) (by simp)

/-- A move of a factor either reads something or reports an error. -/
def ReadsOrFails (m : Move) : Prop :=
  (∃ next, m.Consumes next) ∨ ∃ e, m = .still (.fail e)

theorem readsOrFails_tokenFactorMove (t : Option Token) : ReadsOrFails (tokenFactorMove t) := by
  unfold tokenFactorMove
  split
  case h_7 | h_8 => exact Or.inr ⟨_, rfl⟩
  all_goals exact Or.inl ⟨_, Or.inl ⟨_, rfl⟩⟩

theorem readsOrFails_symbolMove (t : Option Token) : ReadsOrFails (symbolMove t) := by
  unfold symbolMove
  split
  case h_4 | h_5 => exact Or.inr ⟨_, rfl⟩
  all_goals exact Or.inl ⟨_, Or.inl ⟨_, rfl⟩⟩

theorem readsOrFails_factorMove (t : Option Token) : ReadsOrFails (factorMove t) := by
  unfold factorMove
  split
  case h_5 => exact Or.inl ⟨_, Or.inr rfl⟩
  case h_8 => exact readsOrFails_symbolMove _
  all_goals exact Or.inl ⟨_, Or.inl ⟨_, rfl⟩⟩

/-- A loop over factors goes on with a factor. -/
theorem ReadsOrFails.continues_followedBy (h : ReadsOrFails m) (hl : g.loop? = some l) :
    Continues l (m.followedBy [g]) := by
  rcases h with ⟨next, h⟩ | ⟨e, rfl⟩
  · exact .round next g (Move.consumes_followedBy.mpr ⟨next, h, rfl⟩) hl
  · exact .gaveUp e

/-- **The table at the head of a loop that goes on**, at a lexeme. -/
theorem continues_move (hl : g.loop? = some l) (ht : l.test t = true) :
    Continues l (g.move t) := by
  cases g with
  | preamble =>
    cases hl
    rw [move, if_neg (by simpa [Loop.test] using ht)]
    exact continues_skip rfl
  | globalCode =>
    cases hl
    rw [move, if_neg (by simpa [Loop.test] using ht)]
    exact continues_skip rfl
  | productionsOption =>
    cases hl
    obtain ⟨hproductions, hend⟩ : t ≠ some .productionsKw ∧ t ≠ some .endKw := by
      simpa [Loop.test] using ht
    rw [move, if_neg hproductions, if_neg hend]
    exact continues_skip rfl
  -- The loops over declarations, operands and alternatives put their body before themselves.
  | charSets =>
    cases hl
    obtain rfl : t = some .ident := by simpa [Loop.test] using ht
    exact .round ([announce .charSetAssign, require .equal, announce .setOperand] ++ set ++
      [require .period, boundary, announce .charactersSection]) charSets (Or.inl ⟨_, rfl⟩) rfl
  | productions =>
    cases hl
    obtain rfl : t = some .ident := by simpa [Loop.test] using ht
    exact .round ([announce .afterProductionName, attributesOption .afterAttributes, actionOption,
      require .equal, announce .expressionStart] ++ expression ++ [require .period,
      announce .productionDone, boundary]) productions (Or.inl ⟨_, rfl⟩) rfl
  | setOperations =>
    cases hl
    obtain rfl | rfl : t = some .plus ∨ t = some .minus := by simpa [Loop.test] using ht
    all_goals exact .round [announce .setOperand, simpleSet] setOperations (Or.inl ⟨_, rfl⟩) rfl
  | commentDeclarations =>
    cases hl
    obtain rfl : t = some .commentsKw := by simpa [Loop.test] using ht
    exact .round ([announce .commentsKeyword, require .fromKw, announce .tokenExpression] ++
      tokenExpression ++ [announce .commentsFrom, require .toKw, announce .tokenExpression] ++
      tokenExpression ++ [announce .commentsTo, nestedOption, boundary]) commentDeclarations
      (Or.inl ⟨_, rfl⟩) rfl
  | ignoreSets =>
    cases hl
    obtain rfl : t = some .ignoreKw := by simpa [Loop.test] using ht
    exact .round (announce .setOperand :: set ++ [boundary, announce .ignoreSet]) ignoreSets
      (Or.inl ⟨_, rfl⟩) rfl
  | tokenAlternatives =>
    cases hl
    obtain rfl : t = some .bar := by simpa [Loop.test] using ht
    exact .round [announce .tokenExpression, tokenFactor, tokenFactors, contextOption]
      tokenAlternatives (Or.inl ⟨_, rfl⟩) rfl
  | alternatives =>
    cases hl
    obtain rfl : t = some .bar := by simpa [Loop.test] using ht
    exact .round [announce .alternative, resolverOption, factors] alternatives (Or.inl ⟨_, rfl⟩) rfl
  | tokenDeclarations s =>
    cases hl
    have hround : ∀ k, declarationMove s (some k) = .take (some .tokenName) ([definitionOption,
        actionOption, boundary, announce s.checkpoint] ++ [tokenDeclarations s]) →
        Continues (.tokenDeclarations s) (declarationMove s (some k)) := by
      intro k h
      rw [h]
      exact .round _ (tokenDeclarations s) (Or.inl ⟨_, rfl⟩) rfl
    rw [move]
    cases t with
    | none => cases ht
    | some k =>
      cases k with
      | ident | string | char => exact hround _ rfl
      | badString =>
        exact .failed _ _ [announce s.checkpoint] (tokenDeclarations s) rfl
      | _ => cases ht
  -- The loops over factors put themselves behind the factor.
  | tokenFactors =>
    cases hl
    rw [move, if_pos (by simpa [Loop.test] using ht)]
    exact (readsOrFails_tokenFactorMove t).continues_followedBy rfl
  | factors =>
    cases hl
    rw [move, if_pos (by simpa [Loop.test] using ht)]
    exact (readsOrFails_factorMove t).continues_followedBy rfl
  -- The loops over host code have no body, and skip one lexeme in each round.
  | attributes depth =>
    cases hl
    simp only [move, attributesMove]
    repeat' split
    all_goals first
      | exact .gaveUp _
      | exact continues_take_nil
      | exact continues_skip rfl
  | condition depth =>
    cases hl
    simp only [move, conditionMove]
    repeat' split
    all_goals first
      | exact continues_take_nil
      | exact continues_skip rfl
  | dottedAttributes | action =>
    cases hl
    simp only [move]
    repeat' split
    all_goals first
      | exact .gaveUp _
      | exact continues_take_nil
      | exact continues_skip rfl
  | recovery =>
    cases hl
    have hsection : ¬t.any Token.isSectionKeyword = true := by simpa [Loop.test] using ht
    rw [move, if_neg hsection]
    split
    · exact continues_take_nil
    · exact continues_skip rfl
  | _ => cases hl

/-- **The table at the head of a loop that goes on.** -/
theorem continues_meet (hl : g.loop? = some l) {la : Option (Option Token)}
    (ht : l.goesOn la = true) : Continues l (g.meet la) := by
  cases la with
  | some t => exact continues_move hl ht
  | none =>
    -- At the end of the source only host code goes on, and it is not closed.
    cases g with
    | attributes | dottedAttributes | action | condition => exact .gaveUp _
    | _ => cases hl <;> cases ht

/-- The move leaves a loop: it drops the goal, or puts others in its place that are not in the
loop. -/
def Ends (l : Loop) (m : Move) : Prop :=
  m = .pass ∨ ∃ next, m.Consumes next ∧ ∀ g ∈ next, g.loop? ≠ some l

theorem ends_optionMove {k : Token} {goals : List Goal} (h : t ≠ some k) :
    Ends l (optionMove k goals t) := by
  rw [optionMove, if_neg h]
  exact Or.inl rfl

/-- **The table at the head of a loop that is over**, at a lexeme. -/
theorem ends_move (hl : g.loop? = some l) (ht : l.test t = false) : Ends l (g.move t) := by
  cases g with
  | preamble =>
    cases hl
    obtain rfl : t = some .compilerKw := by simpa [Loop.test] using ht
    exact Or.inl rfl
  | globalCode =>
    cases hl
    rw [move, if_pos (by simpa [Loop.test] using ht)]
    exact Or.inl rfl
  | productionsOption =>
    cases hl
    rw [move]
    split
    · -- The search is over: the productions are a loop of their own.
      exact Or.inr ⟨_, Or.inl ⟨_, rfl⟩, by simp [loop?]⟩
    next h =>
      have hend : t = some .endKw := by simpa [Loop.test, h] using ht
      rw [if_pos hend]
      exact Or.inl rfl
  | charSets | productions | setOperations =>
    cases hl
    rw [move, if_neg (by simpa [Loop.test] using ht)]
    exact Or.inl rfl
  | commentDeclarations | ignoreSets | tokenAlternatives | alternatives =>
    cases hl
    exact ends_optionMove (by simpa [Loop.test] using ht)
  | tokenDeclarations s =>
    cases hl
    simp only [move, declarationMove]
    split
    case h_5 => exact Or.inl rfl
    all_goals cases ht
  | tokenFactors | factors =>
    cases hl
    rw [move, if_neg (by simpa [Loop.test] using ht)]
    exact Or.inl rfl
  | recovery =>
    cases hl
    have hsection : t.any Token.isSectionKeyword = true := by simpa [Loop.test] using ht
    rw [move, if_pos hsection]
    split
    · exact Or.inr ⟨_, Or.inl ⟨_, rfl⟩, by simp⟩
    · exact Or.inl rfl
  | _ => cases hl <;> cases ht

/-- **The table at the head of a loop that is over.** -/
theorem ends_meet (hl : g.loop? = some l) {la : Option (Option Token)}
    (ht : l.goesOn la = false) : Ends l (g.meet la) := by
  cases la with
  | some t => exact ends_move hl ht
  | none =>
    cases g with
    | attributes | dottedAttributes | action | condition =>
      cases hl
      cases ht
    | _ => first | exact Or.inl rfl | cases hl

end Goal

namespace Parsing

variable {s s' s'' : Parsing} {g : Goal} {gs : List Goal} {l : Loop}

/-! ### What one step consumes -/

/-- **Ahead**: at least one lexeme that `s` has before it is consumed in `s'`, and nothing else is
different about the lexemes. -/
def Ahead (s s' : Parsing) : Prop :=
  ∃ read, read ≠ [] ∧ s.rest = read ++ s'.rest

theorem Ahead.isSuffix (h : Ahead s s') : s'.rest <:+ s.rest := by
  obtain ⟨read, -, heq⟩ := h
  exact ⟨read, heq.symm⟩

theorem ahead_of_cons {x : Lexeme} {rest : List Lexeme} (hrest : s.rest = x :: rest)
    (h : s'.rest <:+ rest) : Ahead s s' := by
  obtain ⟨read, rfl⟩ := h
  exact ⟨x :: read, by simp, hrest⟩

theorem Ahead.trans_isSuffix (h : Ahead s s') (h' : s''.rest <:+ s'.rest) : Ahead s s'' := by
  obtain ⟨read, hne, heq⟩ := h
  obtain ⟨more, hmore⟩ := h'
  exact ⟨read ++ more, by simp [hne], by rw [heq, ← hmore, List.append_assoc]⟩

theorem Ahead.of_isSuffix (h : s'.rest <:+ s.rest) (h' : Ahead s' s'') : Ahead s s'' := by
  obtain ⟨read, hread⟩ := h
  obtain ⟨more, hne, heq⟩ := h'
  exact ⟨read ++ more, by simp [hne], by rw [← hread, heq, List.append_assoc]⟩

/-- **Invalid lexemes are dropped one by one**, up to the first one that is a token. -/
theorem rest_dropInvalid (s : Parsing) (rest : List Lexeme) :
    (s.dropInvalid rest).rest = rest.dropWhile (·.token.isNone) := by
  induction rest generalizing s with
  | nil => rfl
  | cons x rest ih =>
    unfold dropInvalid
    split
    next t hx => simp [hx]
    next hx => rw [ih, List.dropWhile_cons_of_pos (by simp [hx])]

theorem rest_take (s : Parsing) (x : Lexeme) (rest : List Lexeme) :
    (s.take x rest).rest = rest.dropWhile (·.token.isNone) :=
  rest_dropInvalid _ _

/-- `s'` comes right after `s`. -/
def Next (s s' : Parsing) : Prop :=
  ∃ g gs, s.goals = g :: gs ∧ s' = (s.step g gs).2

theorem Next.turn (h : Next s s') : ∃ g gs n, s.goals = g :: gs ∧ Turn s g gs n s' := by
  obtain ⟨g, gs, hg, rfl⟩ := h
  exact ⟨g, gs, _, hg, turn_step s g gs⟩

theorem Next.eq_step (h : Next s s') (hgoals : s.goals = g :: gs) : s' = (s.step g gs).2 := by
  obtain ⟨g', gs', hg, rfl⟩ := h
  obtain ⟨rfl, rfl⟩ : g' = g ∧ gs' = gs := by simpa using hg.symm.trans hgoals
  rfl

/-- **A move that consumes takes the parse ahead.** -/
theorem Next.of_consumes {next : List Goal} (h : Next s s') (hgoals : s.goals = g :: gs)
    (hm : (g.meet s.lookahead).Consumes next) : Ahead s s' ∧ s'.goals = next ++ gs := by
  have hne : ∀ k, g.meet s.lookahead ≠ .still k := by
    intro k hk
    exact Move.not_consumes_still k (hk ▸ hm)
  obtain ⟨x, rest, hrest, hmove⟩ := exists_cons_of_meet rfl hne
  rw [h.eq_step hgoals]
  rw [← hmove] at hm
  rcases hm with ⟨before, hm⟩ | hm
  · rw [step_of_move_take hrest hm]
    refine ⟨ahead_of_cons hrest ?_, rfl⟩
    change (s.take x rest).rest <:+ rest
    rw [rest_take]
    exact List.dropWhile_suffix _
  · rw [step_of_move_skip hrest hm]
    exact ⟨ahead_of_cons hrest (List.suffix_refl rest), rfl⟩

/-- **A recovery that has an unterminated string before it consumes it.** -/
theorem Next.ahead_of_resumes (h : Next s s') (hs : s.resumes) : Ahead s s' := by
  obtain ⟨g, gs, -, hg, -⟩ := h.turn
  have hc : (g.meet s.lookahead).Consumes [.recovery] := by simp [meet_of_resumes hg hs]
  exact (h.of_consumes hg hc).1

/-- **Nothing is consumed**, but there are fewer goals than before, or the next step consumes. -/
def Stays (s s' : Parsing) : Prop :=
  s'.rest = s.rest ∧ (s'.goals.length < s.goals.length ∨ s'.resumes)

/-- **A step consumes a lexeme, or drops a goal, or puts a recovery before a lexeme that it
consumes.** -/
theorem Next.ahead_or_stays (h : Next s s') : Ahead s s' ∨ Stays s s' := by
  obtain ⟨g, gs, n, hg, ht⟩ := h.turn
  have hlen : gs.length < s.goals.length := by simp [hg]
  cases ht with
  | pass => exact Or.inr ⟨rfl, Or.inl hlen⟩
  | tell => exact Or.inr ⟨rfl, Or.inl hlen⟩
  | note e => exact Or.inr ⟨by simp, Or.inl hlen⟩
  | fail e => exact Or.inr ⟨by simp, Or.inl (Nat.lt_of_le_of_lt (length_unwind_le gs) hlen)⟩
  | take x rest before next hrest hm =>
    have hc : (g.meet s.lookahead).Consumes next := by simp [lookahead, hrest, hm]
    exact Or.inl (h.of_consumes hg hc).1
  | skip x rest next hrest hm =>
    have hc : (g.meet s.lookahead).Consumes next := by simp [lookahead, hrest, hm]
    exact Or.inl (h.of_consumes hg hc).1
  | spoil before e next hm =>
    obtain ⟨x, rest, hrest, hmove⟩ := exists_cons_of_meet hm (by simp)
    obtain ⟨sec, -, hx, -, -, rfl⟩ := Goal.move_eq_spoil hmove
    exact Or.inr ⟨by simp, Or.inr (by simp [resumes, lookahead, hrest, hx])⟩

theorem Next.isSuffix (h : Next s s') : s'.rest <:+ s.rest := by
  rcases h.ahead_or_stays with h | ⟨h, -⟩
  · exact h.isSuffix
  · exact h ▸ List.suffix_refl _

theorem isSuffix_of_reflTransGen (h : Relation.ReflTransGen Next s s') : s'.rest <:+ s.rest := by
  induction h with
  | refl => exact List.suffix_refl _
  | tail _ hnext ih => exact hnext.isSuffix.trans ih

/-- **Many steps consume a lexeme or get nowhere, like one of them.** What carries the induction is
that a state which resumes is not the last one without a lexeme consumed. -/
theorem ahead_or_stays_of_transGen (h : Relation.TransGen Next s s') : Ahead s s' ∨ Stays s s' := by
  induction h with
  | single hnext => exact hnext.ahead_or_stays
  | @tail m s' _ hnext ih =>
    rcases ih with hahead | ⟨hrest, hm⟩
    · exact Or.inl (hahead.trans_isSuffix hnext.isSuffix)
    · have hon : Ahead m s' → Ahead s s' := Ahead.of_isSuffix (hrest ▸ List.suffix_refl _)
      rcases hm with hlen | hresumes
      · rcases hnext.ahead_or_stays with hahead | ⟨hrest', hlen' | hresumes'⟩
        · exact Or.inl (hon hahead)
        · exact Or.inr ⟨hrest'.trans hrest, Or.inl (by omega)⟩
        · exact Or.inr ⟨hrest'.trans hrest, Or.inr hresumes'⟩
      · exact Or.inl (hon (hnext.ahead_of_resumes hresumes))

/-- **Where a parse has as many goals as before, it has consumed a lexeme**, unless a recovery is
about to do so that was not there before. -/
theorem ahead_of_transGen (h : Relation.TransGen Next s s')
    (hlen : s.goals.length ≤ s'.goals.length)
    (hresumes : s'.rest = s.rest → s'.resumes → s.resumes) : Ahead s s' := by
  rcases ahead_or_stays_of_transGen h with hahead | ⟨hrest, hlt | hs'⟩
  · exact hahead
  · omega
  · obtain ⟨m, hnext, hsteps⟩ := Relation.TransGen.head'_iff.mp h
    exact (hnext.ahead_of_resumes (hresumes hrest hs')).trans_isSuffix
      (isSuffix_of_reflTransGen hsteps)

/-- **A loop that is at its head again** has consumed a lexeme. -/
theorem ahead_of_again {g' : Goal} (h : Relation.TransGen Next s s') (hgoals : s.goals = g :: gs)
    (hgoals' : s'.goals = g' :: gs) (hl : g.loop? = some l) (hl' : g'.loop? = some l) :
    Ahead s s' := by
  refine ahead_of_transGen h (by simp [hgoals, hgoals']) fun hrest hs' => ?_
  obtain ⟨hhead, hlook⟩ := resumes_iff.mp hs'
  obtain rfl : g' = .recovery := by simpa [hgoals'] using hhead
  -- The loop is that of the recovery, which was there before, with the same lexeme before it.
  obtain rfl : g = .recovery := Goal.eq_recovery_of_loop? (hl.trans hl'.symm)
  rw [lookahead, hrest] at hlook
  exact resumes_iff.mpr ⟨by rw [hgoals]; rfl, hlook⟩

/-- Where goals have taken the place of fewer ones, before the same goals, a lexeme has been
consumed. -/
theorem ahead_of_nested {outer inner more : List Goal} (h : Relation.TransGen Next s s')
    (hle : outer.length ≤ inner.length) (hgoals : s.goals = outer ++ gs)
    (hgoals' : s'.goals = inner ++ (more ++ gs)) (hinner : inner.head? = some g)
    (hg : g ≠ .recovery) : Ahead s s' := by
  refine ahead_of_transGen h ?_ fun _ hs' => ?_
  · simp only [hgoals, hgoals', List.length_append]
    omega
  · have hhead := (resumes_iff.mp hs').1
    rw [hgoals', List.head?_append, hinner, Option.some_or] at hhead
    exact absurd (Option.some.inj hhead) hg

/-! ### Lexemes are counted once -/

theorem distance_dropInvalid (rest : List Lexeme) (s : Parsing) :
    (s.dropInvalid rest).distance + (s.dropInvalid rest).rest.length ≤
      s.distance + rest.length := by
  induction rest generalizing s with
  | nil => simp [dropInvalid]
  | cons x rest ih =>
    unfold dropInvalid
    split
    · exact Nat.le_refl _
    · have hrest := ih ((({ s with rest := x :: rest }).report .invalidSymbol).consume x rest)
      simp only [consume, report_distance, List.length_cons] at *
      omega

/-- **Nothing is consumed but lexemes that are there**: whenever the distance from the last error
grows by one, there is one lexeme less. -/
theorem Next.distance_le (h : Next s s') :
    s'.distance + s'.rest.length ≤ s.distance + s.rest.length := by
  obtain ⟨g, gs, n, hg, ht⟩ := h.turn
  cases ht with
  | pass => exact Nat.le_refl _
  | tell => exact Nat.le_refl _
  | note e => simp
  | fail e => simp
  | take x rest before next hrest =>
    have hdrop := distance_dropInvalid rest (s.consume x rest)
    simp only [take, consume, hrest, List.length_cons] at *
    omega
  | skip x rest next hrest =>
    simp only [consume, hrest, List.length_cons]
    omega
  | spoil before e => simp

/-- At the end of the source the last consumed lexeme stays the last one. -/
theorem Next.current_of_rest_nil (h : Next s s') (hrest : s.rest = []) :
    s'.rest = [] ∧ s'.current = s.current := by
  obtain ⟨g, gs, n, hg, ht⟩ := h.turn
  cases ht with
  | pass => exact ⟨hrest, rfl⟩
  | tell => exact ⟨hrest, rfl⟩
  | note e => exact ⟨by simpa using hrest, by simp⟩
  | fail e => exact ⟨by simpa using hrest, by simp⟩
  | spoil before e => exact ⟨by simpa using hrest, by simp⟩
  | take x rest before next hcons => cases hrest.symm.trans hcons
  | skip x rest next hcons => cases hrest.symm.trans hcons

/-- **At the end of the source the table consumes nothing.** -/
theorem not_consumes_of_rest_nil (g : Goal) (hrest : s.rest = []) (next : List Goal) :
    ¬(g.meet s.lookahead).Consumes next := by
  obtain ⟨m, hm⟩ := Goal.exists_atEnd_eq_still g
  simp [lookahead, hrest, hm]

/-! ### The loops -/

/-- **A round of a loop**: the parse has consumed a lexeme, and the loop is put back behind what is
to be done in this round. -/
def Rounds (l : Loop) (gs : List Goal) (s s' : Parsing) : Prop :=
  Ahead s s' ∧ ∃ body head, s'.goals = body ++ head :: gs ∧ head.loop? = some l

/-- **A round that fails at once**: nothing is consumed, and the loop is put back behind a recovery,
which is certain to consume a lexeme. -/
def Fails (l : Loop) (gs : List Goal) (s s' : Parsing) : Prop :=
  s'.rest = s.rest ∧
    (∃ body head, s'.goals = .recovery :: (body ++ head :: gs) ∧ head.loop? = some l) ∧
    ∀ s'', Next s' s'' → Ahead s' s''

/-- **The end of a loop**: it is not put back before the goals behind it. -/
def Leaves (l : Loop) (gs : List Goal) (s' : Parsing) : Prop :=
  ∃ body, s'.goals = body ++ gs ∧ ∀ g ∈ body, g.loop? ≠ some l

/-- **An error inside a loop** drops it, together with what the error takes from the goals behind
it. -/
def GivesUp (gs : List Goal) (s s' : Parsing) : Prop :=
  ∃ e, s' = { s.report e with goals := unwind gs }

/-- **At the head of a loop that goes on** a step consumes a lexeme, or fails before a recovery that
does, or leaves the loop by an error. -/
theorem Next.of_goesOn (h : Next s s') (hgoals : s.goals = g :: gs) (hl : g.loop? = some l)
    (hon : l.goesOn s.lookahead = true) :
    Rounds l gs s s' ∨ Fails l gs s s' ∨ Ahead s s' ∧ Leaves l gs s' ∨ GivesUp gs s s' := by
  have hcont := Goal.continues_meet hl hon
  generalize hm : g.meet s.lookahead = m at hcont
  have hs' : s' = (s.act gs m).2 := by rw [h.eq_step hgoals, step, hm]
  cases hcont with
  | round body head hc hhead =>
    obtain ⟨hahead, hgoals'⟩ := h.of_consumes hgoals (hm ▸ hc)
    exact Or.inl ⟨hahead, body, head, by simp [hgoals'], hhead⟩
  | last next hc hnone =>
    obtain ⟨hahead, hgoals'⟩ := h.of_consumes hgoals (hm ▸ hc)
    exact Or.inr (Or.inr (Or.inl ⟨hahead, next, hgoals', hnone⟩))
  | gaveUp e => exact Or.inr (Or.inr (Or.inr ⟨e, hs'⟩))
  | failed c e body head hhead =>
    obtain ⟨x, rest, hrest, hmove⟩ := exists_cons_of_meet hm (by simp)
    obtain ⟨sec, -, hx, -⟩ := Goal.move_eq_spoil hmove
    have hresumes : s'.resumes := by simp [hs', act, resumes, lookahead, hrest, hx]
    exact Or.inr (Or.inl ⟨by simp [hs', act], ⟨body, head, by simp [hs', act], hhead⟩,
      fun s'' hnext => hnext.ahead_of_resumes hresumes⟩)

/-- **At the head of a loop that is over** a step leaves the loop. -/
theorem Next.leaves (h : Next s s') (hgoals : s.goals = g :: gs) (hl : g.loop? = some l)
    (hover : l.goesOn s.lookahead = false) : Leaves l gs s' := by
  rcases Goal.ends_meet hl hover with hm | ⟨next, hc, hnone⟩
  · rw [h.eq_step hgoals, step_of_meet_still s gs hm]
    exact ⟨[], rfl, by simp⟩
  · exact ⟨next, (h.of_consumes hgoals hc).2, hnone⟩

/-! ### The end of a parse -/

/-- The state after one more step, or the same one if no goal is left. -/
def next (s : Parsing) : Parsing :=
  match s.goals with
  | [] => s
  | g :: gs => (s.step g gs).2

theorem next_of_goals_nil (h : s.goals = []) : s.next = s := by
  simp [next, h]

theorem next_of_goals_cons (h : s.goals = g :: gs) : s.next = (s.step g gs).2 := by
  simp [next, h]

/-- **As many steps as the potential says are enough.** -/
theorem iterate_next {n : Nat} (h : s.potential ≤ n) : next^[n] s = s.run.2 := by
  induction n generalizing s with
  | zero =>
    have hgoals : s.goals = [] := by
      rw [← List.length_eq_zero_iff]
      unfold potential at h
      omega
    rw [run_of_goals_nil hgoals, Function.iterate_zero, id]
  | succ n ih =>
    rw [Function.iterate_succ_apply]
    cases hg : s.goals with
    | nil =>
      rw [next_of_goals_nil hg, run_of_goals_nil hg]
      exact Function.iterate_fixed (next_of_goals_nil hg) n
    | cons g gs =>
      have hlt := potential_step_lt s g gs hg
      rw [next_of_goals_cons hg, run_of_goals_cons hg]
      exact ih (by omega)

theorem potential_start (lexemes : List Lexeme) (stop : Position) :
    (start lexemes stop).potential =
      (Goal.width + 3) * lexemes.length + Goal.grammar.length + 3 := rfl

/-- Some steps, as long as there is a goal left before the last one. -/
theorem transGen_iterate_next {n : Nat} (h : (next^[n] s).goals ≠ []) :
    Relation.TransGen Next s (next^[n + 1] s) := by
  have hlast : Next (next^[n] s) (next^[n + 1] s) := by
    obtain ⟨g, gs, hg⟩ := List.exists_cons_of_ne_nil h
    refine ⟨g, gs, hg, ?_⟩
    rw [Function.iterate_succ_apply', next_of_goals_cons hg]
  cases n with
  | zero => exact .single hlast
  | succ n =>
    -- Without a goal there would be no step, and no goal later on either.
    have hbefore : (next^[n] s).goals ≠ [] := by
      intro hnil
      rw [Function.iterate_succ_apply', next_of_goals_nil hnil] at h
      exact h hnil
    exact (transGen_iterate_next hbefore).tail hlast

/-- **What progress means for the parse of a list of lexemes.** -/
structure Progress (lexemes : List Lexeme) (stop : Position) : Prop where
  /-- At the head of a loop whose condition holds, a step consumes a lexeme and begins a round, or it
  fails and the recovery after it consumes a lexeme, or it leaves the loop. -/
  round : ∀ {s s' g gs l}, Next s s' → s.goals = g :: gs → g.loop? = some l →
    l.goesOn s.lookahead = true →
      Rounds l gs s s' ∨ Fails l gs s s' ∨ Ahead s s' ∧ Leaves l gs s' ∨ GivesUp gs s s'
  /-- At the head of a loop whose condition does not hold, a step leaves the loop. -/
  ended : ∀ {s s' g gs l}, Next s s' → s.goals = g :: gs → g.loop? = some l →
    l.goesOn s.lookahead = false → Leaves l gs s'
  /-- A loop that is at its head again has consumed a lexeme, also when a declaration has failed and
  text has been skipped on the way. -/
  again : ∀ {s s' g g' gs l}, Relation.TransGen Next s s' → s.goals = g :: gs →
    s'.goals = g' :: gs → g.loop? = some l → g'.loop? = some l → Ahead s s'
  /-- Invalid lexemes after a taken one are consumed one by one, up to the first token. -/
  invalid : ∀ (s : Parsing) (x : Lexeme) (rest : List Lexeme),
    (s.take x rest).rest = rest.dropWhile (·.token.isNone)
  /-- A token expression inside a token expression, or inside any part of one, starts at a later
  lexeme than that. -/
  tokenExpression : ∀ {s s' outer more gs}, Relation.TransGen Next s s' →
    List.Sublist outer Goal.tokenExpression → s.goals = outer ++ gs →
    s'.goals = Goal.tokenExpression ++ (more ++ gs) → Ahead s s'
  /-- An expression inside an expression, or inside any part of one, starts at a later lexeme than
  that. -/
  expression : ∀ {s s' outer more gs}, Relation.TransGen Next s s' →
    List.Sublist outer Goal.expression → s.goals = outer ++ gs →
    s'.goals = Goal.expression ++ (more ++ gs) → Ahead s s'
  /-- What is not consumed is the end of the list. -/
  inside : ∀ {s}, Relation.ReflTransGen Next (start lexemes stop) s → s.rest <:+ lexemes
  /-- Every lexeme that is counted as consumed was there. -/
  present : ∀ {s s'}, Next s s' → s'.distance + s'.rest.length ≤ s.distance + s.rest.length
  /-- At the end of the source the table consumes nothing, and the last consumed lexeme stays the
  last one. -/
  atEnd : ∀ {s s' g gs}, Next s s' → s.goals = g :: gs → s.rest = [] →
    (∀ next, ¬(g.meet s.lookahead).Consumes next) ∧ s'.rest = [] ∧ s'.current = s.current
  /-- The parse ends, after a number of steps that is linear in the number of lexemes. -/
  ends : next^[(Goal.width + 3) * lexemes.length + Goal.grammar.length + 3] (start lexemes stop) =
      (start lexemes stop).run.2 ∧
    (start lexemes stop).run.2.goals = []

/-- **Every parse makes progress**, on any lexemes. -/
theorem progress_start (lexemes : List Lexeme) (stop : Position) : Progress lexemes stop where
  round h hgoals hl hon := h.of_goesOn hgoals hl hon
  ended h hgoals hl hover := h.leaves hgoals hl hover
  again h hgoals hgoals' hl hl' := ahead_of_again h hgoals hgoals' hl hl'
  invalid s x rest := rest_take s x rest
  tokenExpression h houter hgoals hgoals' :=
    ahead_of_nested h houter.length_le hgoals hgoals' rfl (by decide)
  expression h houter hgoals hgoals' :=
    ahead_of_nested h houter.length_le hgoals hgoals' rfl (by decide)
  inside h := isSuffix_of_reflTransGen h
  present h := h.distance_le
  atEnd h hgoals hrest := ⟨not_consumes_of_rest_nil _ hrest, h.current_of_rest_nil hrest⟩
  ends := ⟨iterate_next (Nat.le_of_eq (potential_start lexemes stop)), run_goals _⟩

/-- A declaration begins with an unterminated string and fails without consuming it. The recovery
consumes it and skips text up to a period, and the loop over the declarations is at its head again,
further on. -/
theorem progress_start_failed_declaration :
    let lexemes := Lexeme.scan "COMPILER A TOKENS \"a\n b. c".toList
    let s := next^[12] (start lexemes ⟨2, 5⟩)
    let s' := next^[5] s
    s.goals.head? = some (.tokenDeclarations .tokens) ∧ s'.goals = s.goals ∧
      s.next.rest = s.rest ∧ s'.diagnostics.length = 1 ∧ Ahead s s' := by
  intro lexemes s s'
  have hgoals : s'.goals = s.goals := by decide +kernel
  have hhead : s.goals.head? = some (.tokenDeclarations .tokens) := by decide +kernel
  obtain ⟨gs, hgs⟩ := List.head?_eq_some_iff.mp hhead
  have hsteps : Relation.TransGen Next s s' := transGen_iterate_next (by decide +kernel)
  refine ⟨hhead, hgoals, by decide +kernel, by decide +kernel, ?_⟩
  exact (progress_start lexemes ⟨2, 5⟩).again hsteps hgs (hgoals.trans hgs) rfl rfl

end Parsing

end GrammarWorkbench
