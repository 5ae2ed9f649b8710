import GrammarWorkbench.Proofs.Parse.Order
import GrammarWorkbench.Snapshot

/-!
# What follows the cursor is not seen

The legal constructs at a position are found by parsing a whole source, errors after the cursor and
all. They depend on its beginning only: two sources with the same lexemes **up to and including the
first one that is not before the cursor** have the same legal constructs there. Of a lexeme, only
its token and its position count. This is `GrammarWorkbench.Session.legal_complete_congr`.

The proof follows two parses at once, in two phases.

* As long as the last common lexeme is ahead, the parses are **abreast**
  (`GrammarWorkbench.Parsing.Abreast`): they do the same and their notices look the same.
* Once it is consumed, a parse is **past** the cursor (`GrammarWorkbench.Parsing.Past`). From there
  on no step is common, but nothing that it does reaches the answer: what it announces lies behind
  the cursor, and so do its errors.

The passage from one phase to the other may happen in the middle of a step, when a taken lexeme is
followed by invalid ones.
-/

namespace GrammarWorkbench

/-! ### What two sources have in common -/

namespace Lexeme

/-- What parsing knows about a lexeme. -/
def key (x : Lexeme) : Option Token × Position :=
  (x.token, x.position)

/-- **The lexemes that count for a cursor**: all up to and including the first one that is not
before it. There is no such list if all lexemes are before the cursor. -/
def upTo (cursor : Position) : List Lexeme → Option (List (Option Token × Position))
  | [] => none
  | x :: rest =>
    if x.position.isBefore cursor then (upTo cursor rest).map (x.key :: ·) else some [x.key]

theorem upTo_eq_some {cursor : Position} {l : List Lexeme} {k : List (Option Token × Position)}
    (h : upTo cursor l = some k) :
    ∃ x rest, l = x :: rest ∧ k.head? = some x.key ∧
      (x.position < cursor → upTo cursor rest = some k.tail) := by
  cases l with
  | nil => cases h
  | cons x rest =>
    refine ⟨x, rest, rfl, ?_⟩
    rw [upTo] at h
    split at h
    next hx =>
      obtain ⟨k', hk, rfl⟩ := Option.map_eq_some_iff.mp h
      exact ⟨rfl, fun _ => hk⟩
    next hx =>
      obtain rfl := Option.some.inj h
      exact ⟨rfl, fun hlt => absurd (decide_eq_true hlt) hx⟩

end Lexeme

/-- Whether the first error is before the cursor. -/
def Diagnostic.firstBefore (cursor : Position) (ds : List Diagnostic) : Bool :=
  (ds.head?.map Diagnostic.position).any (·.isBefore cursor)

/-- What the legal constructs take from a notification. -/
def Notification.facts (n : Notification) : Checkpoint × Position × Nat × Option Position :=
  (n.checkpoint, n.current, n.errorCount, n.firstError)

/-! ### What a tracker keeps for the legal constructs -/

namespace Tracker

variable {t t' : Tracker} {n n' : Notification} {cursor : Position}

/-- The part of a tracker that decides which constructs are legal. -/
def sight (t : Tracker) : Option Position × Option Checkpoint × BraceStack :=
  (t.target, t.last, t.braces)

@[simp]
theorem sight_collect (t : Tracker) (n : Notification) : (t.collect n).sight = t.sight := by
  unfold collect
  split
  · rfl
  · split
    · rfl
    · split
      next kind _ => cases kind <;> rfl
      · split <;> rfl

theorem sight_discard_congr (h : t.sight = t'.sight) (e : Option Position) :
    (t.discard e).sight = (t'.discard e).sight := by
  simp only [sight, Prod.mk.injEq] at h
  obtain ⟨htarget, hlast, hbraces⟩ := h
  unfold discard
  rw [htarget]
  split
  next => split <;> simp [sight, htarget, hlast, hbraces]
  next => simp [sight, htarget, hlast, hbraces]

@[simp]
theorem target_hear (t : Tracker) (n : Notification) : (t.hear n).target = t.target := by
  have hcollect : (t.collect n).target = t.target := congrArg Prod.fst (sight_collect t n)
  unfold hear
  split
  · rw [← hcollect]
    unfold follow
    split
    · rfl
    · split <;> rfl
  · unfold discard
    split
    · split <;> rfl
    · rfl

theorem sight_follow_congr (h : t.sight = t'.sight) (hn : n.facts = n'.facts) :
    (t.follow n).sight = (t'.follow n').sight := by
  simp only [sight, Prod.mk.injEq] at h
  simp only [Notification.facts, Prod.mk.injEq] at hn
  obtain ⟨htarget, hlast, hbraces⟩ := h
  obtain ⟨hcheckpoint, hcurrent, -, -⟩ := hn
  unfold follow
  rw [htarget, hcheckpoint, hcurrent, hbraces]
  split
  next => simp [sight, htarget, hlast, hbraces]
  next => split <;> simp [sight, htarget, hlast, hbraces]

/-- **Notices that look the same are heard the same.** -/
theorem sight_hear_congr (h : t.sight = t'.sight) (hn : n.facts = n'.facts) :
    (t.hear n).sight = (t'.hear n').sight := by
  have hn' := hn
  simp only [Notification.facts, Prod.mk.injEq] at hn'
  obtain ⟨-, -, hcount, herror⟩ := hn'
  unfold hear
  rw [hcount, herror]
  split
  · exact sight_follow_congr (by simpa using h) hn
  · exact sight_discard_congr h _

/-- To forget the last checkpoint, if the first error is before the cursor. -/
theorem sight_discard (h : t.target = some cursor) (ds : List Diagnostic) :
    (t.discard (ds.head?.map Diagnostic.position)).sight =
      (some cursor, if Diagnostic.firstBefore cursor ds then none else t.last, t.braces) := by
  unfold discard Diagnostic.firstBefore
  rw [h]
  cases ds with
  | nil => simp [sight, h]
  | cons d ds =>
    simp only [List.head?_cons, Option.map_some, Option.any_some]
    split
    next hd => simp [sight, hd]
    next hd => simp [sight, h, hd]

end Tracker

namespace Parsing

open Diagnostic (firstBefore)

variable {s s' : Parsing} {g : Goal} {gs : List Goal} {cursor : Position} {t t' : Tracker}

/-! ### Past the cursor -/

/-- **Past the cursor**: neither the last consumed lexeme nor anything that comes after it is before
the cursor. -/
structure Past (cursor : Position) (s : Parsing) : Prop where
  current : ¬s.current < cursor
  rest : ∀ x ∈ s.rest, ¬x.position < cursor
  stop : ¬s.stop < cursor

theorem Past.lookaheadPosition (h : s.Past cursor) : ¬s.lookaheadPosition < cursor := by
  unfold Parsing.lookaheadPosition
  split
  next => exact h.stop
  next x rest hrest => exact h.rest x (by simp [hrest])

theorem Past.report (h : s.Past cursor) (e : SyntaxError) : (s.report e).Past cursor :=
  ⟨by simpa using h.current, by simpa using h.rest, by simpa using h.stop⟩

/-- An error behind the cursor does not become the first one before it. -/
theorem Past.firstBefore_report (h : s.Past cursor) (e : SyntaxError) :
    firstBefore cursor (s.report e).diagnostics = firstBefore cursor s.diagnostics := by
  rcases report_diagnostics s e with hd | hd
  · rw [hd]
  · rw [hd]
    cases s.diagnostics with
    | nil => simpa [firstBefore, Position.isBefore] using h.lookaheadPosition
    | cons d ds => rfl

theorem Past.consume {x : Lexeme} {rest : List Lexeme} (h : s.Past cursor)
    (hrest : s.rest = x :: rest) : (s.consume x rest).Past cursor :=
  ⟨h.rest x (by simp [hrest]), fun y hy => h.rest y (hrest ▸ List.mem_cons_of_mem x hy), h.stop⟩

/-- Invalid lexemes behind the cursor are dropped behind the cursor. -/
theorem Past.dropInvalid {rest : List Lexeme} (h : s.Past cursor) (hrest : s.rest = rest) :
    (s.dropInvalid rest).Past cursor ∧
      firstBefore cursor (s.dropInvalid rest).diagnostics = firstBefore cursor s.diagnostics := by
  induction rest generalizing s with
  | nil => exact ⟨⟨h.current, by simp [Parsing.dropInvalid], h.stop⟩, rfl⟩
  | cons x rest ih =>
    have heq : { s with rest := x :: rest } = s := by rw [← hrest]
    unfold Parsing.dropInvalid
    rw [heq]
    split
    · exact ⟨h, rfl⟩
    · have hconsume := (h.report .invalidSymbol).consume ((report_rest s _).trans hrest)
      obtain ⟨hpast, hfirst⟩ := ih hconsume rfl
      exact ⟨hpast, hfirst.trans (h.firstBefore_report _)⟩

theorem Past.take {x : Lexeme} {rest : List Lexeme} (h : s.Past cursor)
    (hrest : s.rest = x :: rest) : (s.take x rest).Past cursor ∧
      firstBefore cursor (s.take x rest).diagnostics = firstBefore cursor s.diagnostics :=
  (h.consume hrest).dropInvalid rfl

/-- **One step behind the cursor** stays behind it. -/
theorem Past.turn {n : Option Notification} (h : s.Past cursor) (ht : Turn s g gs n s') :
    s'.Past cursor ∧ firstBefore cursor s'.diagnostics = firstBefore cursor s.diagnostics := by
  cases ht with
  | pass => exact ⟨⟨h.current, h.rest, h.stop⟩, rfl⟩
  | tell => exact ⟨⟨h.current, h.rest, h.stop⟩, rfl⟩
  | note e =>
    obtain ⟨hcurrent, hrest, hstop⟩ := h.report e
    exact ⟨⟨hcurrent, hrest, hstop⟩, h.firstBefore_report e⟩
  | fail e =>
    obtain ⟨hcurrent, hrest, hstop⟩ := h.report e
    exact ⟨⟨hcurrent, hrest, hstop⟩, h.firstBefore_report e⟩
  | take x rest _ _ hx =>
    obtain ⟨⟨hcurrent, hrest, hstop⟩, hfirst⟩ := h.take hx
    exact ⟨⟨hcurrent, hrest, hstop⟩, hfirst⟩
  | skip x rest _ hx =>
    obtain ⟨hcurrent, hrest, hstop⟩ := h.consume hx
    exact ⟨⟨hcurrent, hrest, hstop⟩, rfl⟩
  | spoil before e =>
    obtain ⟨hcurrent, hrest, hstop⟩ := h.report e
    exact ⟨⟨hcurrent, hrest, hstop⟩, h.firstBefore_report e⟩

/-- A notice from behind the cursor changes nothing but what the first error changes. -/
theorem Past.hear_turn {n : Notification} (h : s.Past cursor) (ht : Turn s g gs (some n) s')
    (htarget : t.target = some cursor) :
    (t.hear n).sight = t.sight ∨
      (t.hear n).sight = (some cursor, if firstBefore cursor s.diagnostics then none else t.last,
        t.braces) := by
  obtain ⟨c, rfl, -⟩ := ht.some_cases
  unfold Tracker.hear
  split
  · left
    have hcurrent : (s.notice c).current.isBefore cursor = false := decide_eq_false h.current
    have hcollect := Tracker.sight_collect t (s.notice c)
    have htarget' : (t.collect (s.notice c)).target = some cursor :=
      htarget ▸ congrArg (·.1) hcollect
    rw [Tracker.follow, htarget']
    simp only [hcurrent, Bool.false_eq_true, if_false]
    exact hcollect
  · exact Or.inr (Tracker.sight_discard htarget _)

/-- **A run behind the cursor** ends with what the tracker has, unless the first error is before the
cursor. -/
theorem Past.sight_reaches {out : List Notification} (hr : Reaches s out s') :
    ∀ t : Tracker, t.target = some cursor → s.Past cursor →
      ((out.foldl Tracker.hear t).finish s'.diagnostics).sight =
        (some cursor, if firstBefore cursor s.diagnostics then none else t.last, t.braces) := by
  induction hr with
  | refl s =>
    intro t htarget _
    exact Tracker.sight_discard htarget s.diagnostics
  | @step s s' g gs out _ _ ih =>
    intro t htarget hpast
    have hturn := turn_step s g gs
    obtain ⟨hpast', hfirst⟩ := hpast.turn hturn
    cases hn : (s.step g gs).1 with
    | none =>
      rw [← hfirst]
      exact ih t htarget hpast'
    | some n =>
      rw [hn] at hturn
      rw [Option.toList_some, List.singleton_append, List.foldl_cons, ← hfirst]
      rcases hpast.hear_turn hturn htarget with hsight | hsight
      · simp only [Tracker.sight, Prod.mk.injEq] at hsight
        obtain ⟨htarget', hlast, hbraces⟩ := hsight
        rw [ih _ (htarget'.trans htarget) hpast', hlast, hbraces]
      · simp only [Tracker.sight, Prod.mk.injEq] at hsight
        obtain ⟨htarget', hlast, hbraces⟩ := hsight
        rw [ih _ htarget' hpast', hlast, hbraces, hfirst]
        split <;> rfl

/-! ### Abreast -/

/-- To consume a lexeme that is not before the cursor is to get past it. -/
theorem Ordered.past_consume {x : Lexeme} {rest : List Lexeme} (h : s.Ordered)
    (hrest : s.rest = x :: rest) (hx : ¬x.position < cursor) : (s.consume x rest).Past cursor := by
  refine ⟨hx, fun y hy => ?_, ?_⟩
  · have hlt := (List.pairwise_cons.mp (hrest ▸ h.rest)).1 y hy
    exact Position.not_lt_of_lt hlt hx
  · have hlt := h.stop x (by simp [hrest])
    exact Position.not_lt_of_lt hlt hx

/-- **Two parses abreast**: they have done the same, and before them are the same lexemes up to one
that is not before the cursor. -/
structure Abreast (cursor : Position) (s s' : Parsing) : Prop where
  goals : s.goals = s'.goals
  current : s.current = s'.current
  distance : s.distance = s'.distance
  diagnostics : s.diagnostics = s'.diagnostics
  upTo : Lexeme.upTo cursor s.rest = Lexeme.upTo cursor s'.rest
  isSome : (Lexeme.upTo cursor s.rest).isSome
  ordered : s.Ordered
  ordered' : s'.Ordered

/-- Both parses are past the cursor, and agree on whether the first error is before it. -/
structure BothPast (cursor : Position) (s s' : Parsing) : Prop where
  left : s.Past cursor
  right : s'.Past cursor
  firstBefore : firstBefore cursor s.diagnostics = Diagnostic.firstBefore cursor s'.diagnostics

theorem BothPast.dropInvalid {rest rest' : List Lexeme} (h : BothPast cursor s s')
    (hrest : s.rest = rest) (hrest' : s'.rest = rest') :
    BothPast cursor (s.dropInvalid rest) (s'.dropInvalid rest') := by
  obtain ⟨hleft, hfirst⟩ := h.left.dropInvalid hrest
  obtain ⟨hright, hfirst'⟩ := h.right.dropInvalid hrest'
  exact ⟨hleft, hright, hfirst.trans (h.firstBefore.trans hfirst'.symm)⟩

theorem BothPast.withGoals (h : BothPast cursor s s') (gs : List Goal) :
    BothPast cursor { s with goals := gs } { s' with goals := gs } :=
  ⟨⟨h.left.current, h.left.rest, h.left.stop⟩, ⟨h.right.current, h.right.rest, h.right.stop⟩,
    h.firstBefore⟩

/-- The next lexemes of two parses abreast. -/
theorem Abreast.rest_cons (h : Abreast cursor s s') :
    ∃ x rest x' rest', s.rest = x :: rest ∧ s'.rest = x' :: rest' ∧ x.key = x'.key ∧
      (x.position < cursor → Lexeme.upTo cursor rest = Lexeme.upTo cursor rest' ∧
        (Lexeme.upTo cursor rest).isSome) := by
  obtain ⟨k, hk⟩ := Option.isSome_iff_exists.mp h.isSome
  obtain ⟨x, rest, hrest, hhead, htail⟩ := Lexeme.upTo_eq_some hk
  obtain ⟨x', rest', hrest', hhead', htail'⟩ := Lexeme.upTo_eq_some (h.upTo.symm.trans hk)
  have hkey : x.key = x'.key := Option.some.inj (hhead.symm.trans hhead')
  have hposition : x.position = x'.position := congrArg Prod.snd hkey
  refine ⟨x, rest, x', rest', hrest, hrest', hkey, fun hx => ?_⟩
  rw [htail hx, htail' (hposition ▸ hx)]
  exact ⟨rfl, rfl⟩

theorem Abreast.lookaheadPosition (h : Abreast cursor s s') :
    s.lookaheadPosition = s'.lookaheadPosition := by
  obtain ⟨x, rest, x', rest', hrest, hrest', hkey, -⟩ := h.rest_cons
  simp only [Parsing.lookaheadPosition, hrest, hrest']
  exact congrArg Prod.snd hkey

theorem Abreast.withGoals (h : Abreast cursor s s') (gs : List Goal) :
    Abreast cursor { s with goals := gs } { s' with goals := gs } :=
  ⟨rfl, h.current, h.distance, h.diagnostics, h.upTo, h.isSome, ⟨h.ordered.rest, h.ordered.stop⟩,
    ⟨h.ordered'.rest, h.ordered'.stop⟩⟩

theorem Abreast.report (h : Abreast cursor s s') (e : SyntaxError) :
    Abreast cursor (s.report e) (s'.report e) := by
  have hposition := h.lookaheadPosition
  refine ⟨by simpa using h.goals, by simpa using h.current, ?_, ?_, by simpa using h.upTo,
    by simpa using h.isSome, ⟨by simpa using h.ordered.rest, by simpa using h.ordered.stop⟩,
    ⟨by simpa using h.ordered'.rest, by simpa using h.ordered'.stop⟩⟩
  · unfold Parsing.report
    rw [h.distance]
    split <;> rfl
  · unfold Parsing.report
    rw [h.distance, h.diagnostics, hposition]
    split <;> rfl

/-- **To consume the next lexeme abreast** is to stay abreast or to get past the cursor. -/
theorem Abreast.consume {x x' : Lexeme} {rest rest' : List Lexeme} (h : Abreast cursor s s')
    (hrest : s.rest = x :: rest) (hrest' : s'.rest = x' :: rest') :
    Abreast cursor (s.consume x rest) (s'.consume x' rest') ∨
      BothPast cursor (s.consume x rest) (s'.consume x' rest') := by
  obtain ⟨y, ys, y', ys', hy, hy', hkey, hnext⟩ := h.rest_cons
  obtain ⟨rfl, rfl⟩ : y = x ∧ ys = rest := by simpa using hy.symm.trans hrest
  obtain ⟨rfl, rfl⟩ : y' = x' ∧ ys' = rest' := by simpa using hy'.symm.trans hrest'
  have hposition : y.position = y'.position := congrArg Prod.snd hkey
  by_cases hlt : y.position < cursor
  · left
    obtain ⟨hupTo, hsome⟩ := hnext hlt
    exact ⟨h.goals, hposition, congrArg (· + 1) h.distance, h.diagnostics, hupTo, hsome,
      h.ordered.consume hrest, h.ordered'.consume hrest'⟩
  · right
    exact ⟨h.ordered.past_consume hrest hlt, h.ordered'.past_consume hrest' (hposition ▸ hlt),
      congrArg _ h.diagnostics⟩

/-- Two parses abreast drop the same invalid lexemes, or get past the cursor. -/
theorem Abreast.dropInvalid {rest rest' : List Lexeme} (h : Abreast cursor s s')
    (hrest : s.rest = rest) (hrest' : s'.rest = rest') :
    Abreast cursor (s.dropInvalid rest) (s'.dropInvalid rest') ∨
      BothPast cursor (s.dropInvalid rest) (s'.dropInvalid rest') := by
  induction rest generalizing s s' rest' with
  | nil =>
    obtain ⟨x, _, _, _, hx, -⟩ := h.rest_cons
    simp [hrest] at hx
  | cons x rest ih =>
    obtain ⟨y, ys, x', rest', hy, hrest'', hkey, -⟩ := h.rest_cons
    obtain ⟨rfl, rfl⟩ : y = x ∧ ys = rest := by simpa using hy.symm.trans hrest
    obtain rfl := hrest'.symm.trans hrest''
    have heq : { s with rest := y :: ys } = s := by rw [← hrest]
    have heq' : { s' with rest := x' :: rest' } = s' := by rw [← hrest'']
    have htoken : y.token = x'.token := congrArg Prod.fst hkey
    unfold Parsing.dropInvalid
    rw [heq, heq', ← htoken]
    split
    · exact Or.inl h
    · have hconsume := (h.report .invalidSymbol).consume ((report_rest s _).trans hrest)
        ((report_rest s' _).trans hrest'')
      rcases hconsume with hconsume | hpast
      · exact ih hconsume rfl rfl
      · exact Or.inr (hpast.dropInvalid rfl rfl)

/-- Two parses abreast take the next lexeme. -/
theorem Abreast.take {x x' : Lexeme} {rest rest' : List Lexeme} (h : Abreast cursor s s')
    (hrest : s.rest = x :: rest) (hrest' : s'.rest = x' :: rest') :
    Abreast cursor (s.take x rest) (s'.take x' rest') ∨
      BothPast cursor (s.take x rest) (s'.take x' rest') := by
  rcases h.consume hrest hrest' with hconsume | hpast
  · exact hconsume.dropInvalid rfl rfl
  · exact Or.inr (hpast.dropInvalid rfl rfl)

/-! ### Two runs -/

theorem Abreast.facts_notice (h : Abreast cursor s s') (c : Checkpoint) :
    (s.notice c).facts = (s'.notice c).facts := by
  simp [notice, Notification.facts, h.current, h.diagnostics]

/-- **Two parses abreast take the same step**: their notices look the same, and they stay abreast or
get past the cursor together. -/
theorem Abreast.step (h : Abreast cursor s s') (g : Goal) (gs : List Goal) :
    (s.step g gs).1.map Notification.facts = (s'.step g gs).1.map Notification.facts ∧
      (Abreast cursor (s.step g gs).2 (s'.step g gs).2 ∨
        BothPast cursor (s.step g gs).2 (s'.step g gs).2) := by
  obtain ⟨x, rest, x', rest', hrest, hrest', hkey, -⟩ := h.rest_cons
  have htoken : x.token = x'.token := congrArg Prod.fst hkey
  have hlook : s.lookahead = s'.lookahead := by simp [lookahead, hrest, hrest', htoken]
  simp only [Parsing.step, hlook]
  cases g.meet s'.lookahead with
  | still m =>
    cases m with
    | pass => exact ⟨rfl, Or.inl (h.withGoals gs)⟩
    | tell c => exact ⟨congrArg some (h.facts_notice c), Or.inl (h.withGoals gs)⟩
    | note e => exact ⟨rfl, Or.inl ((h.report e).withGoals gs)⟩
    | fail e => exact ⟨rfl, Or.inl ((h.report e).withGoals (unwind gs))⟩
  | take before next =>
    refine ⟨?_, ?_⟩
    · cases before with
      | none => rfl
      | some c => exact congrArg some (h.facts_notice c)
    · simp only [act, get_of_cons hrest, get_of_cons hrest']
      rcases h.take hrest hrest' with htake | hpast
      · exact Or.inl (htake.withGoals (next ++ gs))
      · exact Or.inr (hpast.withGoals (next ++ gs))
  | skip next =>
    refine ⟨rfl, ?_⟩
    simp only [act, advance_of_cons hrest, advance_of_cons hrest']
    rcases h.consume hrest hrest' with hconsume | hpast
    · exact Or.inl (hconsume.withGoals (next ++ gs))
    · exact Or.inr (hpast.withGoals (next ++ gs))
  | spoil before e next =>
    exact ⟨congrArg some (h.facts_notice before), Or.inl ((h.report e).withGoals (next ++ gs))⟩

theorem sight_foldl_congr {n n' : Option Notification} (h : t.sight = t'.sight)
    (hn : n.map Notification.facts = n'.map Notification.facts) :
    (n.toList.foldl Tracker.hear t).sight = (n'.toList.foldl Tracker.hear t').sight := by
  cases n with
  | none =>
    obtain rfl : n' = none := by simpa using hn.symm
    exact h
  | some n =>
    obtain ⟨n', rfl, hn'⟩ := Option.map_eq_some_iff.mp hn.symm
    exact Tracker.sight_hear_congr h hn'.symm

/-- What a tracker keeps from a whole parse that it hears from some state on. -/
def sightOfRun (s : Parsing) (t : Tracker) : Option Position × Option Checkpoint × BraceStack :=
  ((s.run.1.foldl Tracker.hear t).finish s.run.2.diagnostics).sight

theorem BothPast.sightOfRun_eq (h : BothPast cursor s s') (hsight : t.sight = t'.sight)
    (htarget : t.target = some cursor) : s.sightOfRun t = s'.sightOfRun t' := by
  simp only [Tracker.sight, Prod.mk.injEq] at hsight
  obtain ⟨htarget', hlast, hbraces⟩ := hsight
  rw [sightOfRun, sightOfRun, Past.sight_reaches (reaches_run s) t htarget h.left,
    Past.sight_reaches (reaches_run s') t' (htarget' ▸ htarget) h.right, h.firstBefore, hlast,
    hbraces]

theorem sightOfRun_cons (hg : s.goals = g :: gs) :
    s.sightOfRun t = (s.step g gs).2.sightOfRun ((s.step g gs).1.toList.foldl Tracker.hear t) := by
  rw [sightOfRun, sightOfRun, run_of_goals_cons hg, List.foldl_append]

/-- **Two parses abreast come to the same answer.** The induction is on the first run; it ends at
the latest when both are past the cursor. -/
theorem Abreast.sightOfRun_eq {out : List Notification} {last : Parsing} (hr : Reaches s out last) :
    ∀ (s' : Parsing) (t t' : Tracker), last.goals = [] → Abreast cursor s s' →
      t.sight = t'.sight → t.target = some cursor → s.sightOfRun t = s'.sightOfRun t' := by
  induction hr with
  | refl s =>
    intro s' t t' hgoals h hsight _
    rw [sightOfRun, sightOfRun, run_of_goals_nil hgoals, run_of_goals_nil (h.goals ▸ hgoals),
      h.diagnostics]
    exact Tracker.sight_discard_congr hsight _
  | @step s last g gs out hg _ ih =>
    intro s' t t' hgoals h hsight htarget
    obtain ⟨hfacts, hnext⟩ := h.step g gs
    have hsight' := sight_foldl_congr hsight hfacts
    have htarget' : ((s.step g gs).1.toList.foldl Tracker.hear t).target = some cursor := by
      cases (s.step g gs).1 with
      | none => exact htarget
      | some n => exact (Tracker.target_hear t n).trans htarget
    have hg' : s'.goals = g :: gs := h.goals ▸ hg
    rw [sightOfRun_cons hg, sightOfRun_cons hg']
    rcases hnext with hnext | hpast
    · exact ih _ _ _ hgoals hnext hsight' htarget'
    · exact hpast.sightOfRun_eq hsight' htarget'

end Parsing

/-- **What follows the cursor is not seen.** Two sources with the same lexemes up to and including
the first one that is not before the cursor have the same legal constructs there, in whatever
sessions they are asked for and whatever comes later in either of them. -/
theorem Session.legal_complete_congr (a b : Session) (source source' : Text) (cursor : Position)
    (h : Lexeme.upTo cursor (Lexeme.scan source) = Lexeme.upTo cursor (Lexeme.scan source'))
    (hsome : (Lexeme.upTo cursor (Lexeme.scan source)).isSome) :
    (a.complete source cursor).1.legal = (b.complete source' cursor).1.legal := by
  have hordered : ∀ source, (Parsing.start (Lexeme.scan source)
      ((LineIndex.ofText source).position source.size)).Ordered := fun source =>
    ⟨Lexeme.pairwise_scan source, fun x hx => Lexeme.position_lt_of_mem_scan hx⟩
  have habreast : Parsing.Abreast cursor
      (.start (Lexeme.scan source) ((LineIndex.ofText source).position source.size))
      (.start (Lexeme.scan source') ((LineIndex.ofText source').position source'.size)) :=
    ⟨rfl, rfl, rfl, rfl, h, hsome, hordered source, hordered source'⟩
  have hsight := Parsing.Abreast.sightOfRun_eq (Parsing.reaches_run _) _
    (a.tracker.begin (some cursor)) (b.tracker.begin (some cursor)) (Parsing.run_goals _) habreast
    rfl rfl
  have hlegal : ∀ t t' : Tracker, t.sight = t'.sight → t.legal = t'.legal := by
    intro t t' h
    simp only [Tracker.sight, Prod.mk.injEq] at h
    obtain ⟨-, hlast, hbraces⟩ := h
    rw [Tracker.legal, Tracker.legal, hlast, hbraces]
  exact hlegal _ _ hsight

/-- A bracket that is never opened, after the cursor. -/
theorem Session.legal_complete_congr_stray :
    (Lexeme.upTo ⟨1, 28⟩ (Lexeme.scan "COMPILER A PRODUCTIONS B = x . END A .".toList)).isSome ∧
      (({} : Session).complete "COMPILER A PRODUCTIONS B = x . END A .".toList ⟨1, 28⟩).1.legal =
        (({} : Session).complete "COMPILER A PRODUCTIONS B = x ) 'u".toList ⟨1, 28⟩).1.legal :=
  ⟨by decide +kernel,
    Session.legal_complete_congr _ _ _ _ _ (by decide +kernel) (by decide +kernel)⟩

end GrammarWorkbench
