import GrammarWorkbench.Proofs.Completion.Reading
import GrammarWorkbench.Proofs.Parse.Announced
import Mathlib.Data.List.Nodup

/-!
# The stack of brackets holds the groups that are open at the cursor

A tracker pushes a bracket when one is announced as opened and pops one when one is announced as
closed, as long as there is no error and the cursor has not been reached. What it ends up with can be
told from the text alone. The **groups** of a text are its brackets outside host code, each opening
one with the closing one that matches it, found by counting. A group is **open** at a cursor if it
starts before the cursor and does not end before it.

`GrammarWorkbench.Session.braces_complete` says that the stack lists the open groups, and that every
closing bracket on the way finds its own kind on top. The part of the text that counts is the
**error-free part** (`GrammarWorkbench.ParseResult.errorFree`): the lexemes that are consumed before
an error is recorded. A lexeme with an invalid one right after it is no part of it, since the error
is recorded in the same step.
-/

namespace GrammarWorkbench

/-! ### Groups -/

/-- A group in brackets. -/
structure Group where
  kind : Brace
  /-- The position of the opening bracket. -/
  start : Position
  /-- The position of the closing bracket that matches, if there is one. -/
  stop : Option Position
deriving DecidableEq, Repr

/-- The opening bracket stands before the cursor, and the closing one does not. -/
def Group.isOpenAt (cursor : Position) (g : Group) : Bool :=
  g.start.isBefore cursor && !g.stop.any (·.isBefore cursor)

namespace Mark

variable {ms : List Mark} {cursor : Position}

/-- The position of the bracket that closes a group, inside so many further brackets. -/
def closing? : Nat → List Mark → Option Position
  | _, [] => none
  | depth, m :: ms =>
    match m.event, depth with
    | .opened _, depth => closing? (depth + 1) ms
    | .closed _, 0 => some m.position
    | .closed _, depth + 1 => closing? depth ms

/-- **The groups**, in the order of their opening brackets. -/
def groups : List Mark → List Group
  | [] => []
  | m :: ms =>
    match m.event with
    | .opened kind => ⟨kind, m.position, closing? 0 ms⟩ :: groups ms
    | .closed _ => groups ms

/-- The kinds of the groups that are never closed, the outermost first. -/
def unclosed (ms : List Mark) : List Brace :=
  ((groups ms).filter (·.stop.isNone)).map Group.kind

/-- The number of closing brackets that close nothing. -/
def surplus : List Mark → Nat
  | [] => 0
  | m :: ms =>
    match m.event with
    | .opened _ => surplus ms - 1
    | .closed _ => surplus ms + 1

/-- The open brackets after one more, where brackets are counted and not compared. -/
def count (kinds : List Brace) (m : Mark) : List Brace :=
  match m.event with
  | .opened kind => kind :: kinds
  | .closed _ => kinds.tail

/-- A bracket is closed unless there are too few closing brackets. -/
theorem closing?_eq_none_iff {depth : Nat} : closing? depth ms = none ↔ surplus ms ≤ depth := by
  induction ms generalizing depth with
  | nil => simp [closing?, surplus]
  | cons m ms ih =>
    obtain ⟨event, position⟩ := m
    cases event with
    | opened kind =>
      simp only [closing?, surplus, ih]
      omega
    | closed kind =>
      cases depth with
      | zero => simp [closing?, surplus]
      | succ depth =>
        simp only [closing?, surplus, ih]
        omega

/-- **Counting leaves the unclosed groups**, on top of what the surplus has left over. -/
theorem foldl_count (ms : List Mark) (kinds : List Brace) :
    ms.foldl count kinds = (unclosed ms).reverse ++ kinds.drop (surplus ms) := by
  induction ms generalizing kinds with
  | nil => rfl
  | cons m ms ih =>
    obtain ⟨event, position⟩ := m
    rw [List.foldl_cons, ih]
    cases event with
    | closed kind =>
      simp [count, unclosed, groups, surplus]
    | opened kind =>
      -- The new bracket stays open exactly if nothing later closes it.
      cases hclosing : closing? 0 ms with
      | none =>
        have hsurplus : surplus ms = 0 := by simpa using closing?_eq_none_iff.mp hclosing
        simp [count, unclosed, groups, surplus, hclosing, hsurplus]
      | some p =>
        have hpos : ¬surplus ms ≤ 0 := fun h => by
          simp [closing?_eq_none_iff.mpr h] at hclosing
        obtain ⟨k, hk⟩ : ∃ k, surplus ms = k + 1 := ⟨surplus ms - 1, by omega⟩
        simp [count, unclosed, groups, surplus, hclosing, hk]

theorem mem_of_closing? {depth : Nat} {p : Position} (h : closing? depth ms = some p) :
    ∃ m ∈ ms, m.position = p := by
  induction ms generalizing depth with
  | nil => simp [closing?] at h
  | cons m ms ih =>
    unfold closing? at h
    split at h
    · obtain ⟨m', hm', hp⟩ := ih h
      exact ⟨m', List.mem_cons_of_mem m hm', hp⟩
    · exact ⟨m, List.mem_cons_self, Option.some.inj h⟩
    · obtain ⟨m', hm', hp⟩ := ih h
      exact ⟨m', List.mem_cons_of_mem m hm', hp⟩

/-- A group starts and ends at its brackets. -/
theorem exists_of_mem_groups {g : Group} {p : Position} (h : g ∈ groups ms)
    (hp : g.start = p ∨ g.stop = some p) : ∃ m ∈ ms, m.position = p := by
  induction ms with
  | nil => simp [groups] at h
  | cons m ms ih =>
    have htail : g ∈ groups ms → ∃ m' ∈ m :: ms, m'.position = p := by
      intro hg
      obtain ⟨m', hm', hposition⟩ := ih hg
      exact ⟨m', List.mem_cons_of_mem m hm', hposition⟩
    unfold groups at h
    split at h
    · rcases List.mem_cons.mp h with rfl | h
      · rcases hp with hstart | hstop
        · exact ⟨m, List.mem_cons_self, hstart⟩
        · obtain ⟨m', hm', hposition⟩ := mem_of_closing? hstop
          exact ⟨m', List.mem_cons_of_mem m hm', hposition⟩
      · exact htail h
    · exact htail h

/-! Where the brackets stand in order, those before a cursor are a beginning. -/

/-- The brackets stand one after the other. -/
def Increasing (ms : List Mark) : Prop :=
  ms.Pairwise fun m m' => m.position < m'.position

/-- The brackets before a cursor. -/
def before (cursor : Position) (ms : List Mark) : List Mark :=
  ms.filter (·.position.isBefore cursor)

theorem before_cons {m : Mark} (hm : m.position.isBefore cursor = true) :
    before cursor (m :: ms) = m :: before cursor ms := by
  simp [before, hm]

/-- If a bracket does not stand before the cursor, no later one does. -/
theorem isBefore_eq_false {m : Mark} (h : Increasing (m :: ms))
    (hm : m.position.isBefore cursor = false) :
    ∀ m' ∈ m :: ms, m'.position.isBefore cursor = false := by
  intro m' hm'
  rcases List.mem_cons.mp hm' with rfl | hm'
  · exact hm
  · have hlt := (List.pairwise_cons.mp h).1 m' hm'
    simp only [Position.isBefore, decide_eq_false_iff_not] at hm ⊢
    exact Position.not_lt_of_lt hlt hm

theorem before_eq_nil {m : Mark} (h : Increasing (m :: ms))
    (hm : m.position.isBefore cursor = false) : before cursor (m :: ms) = [] := by
  rw [before, List.filter_eq_nil_iff]
  intro m' hm'
  simp [isBefore_eq_false h hm m' hm']

/-- **Before the cursor, a group is closed by the bracket that closes it.** -/
theorem closing?_before (h : Increasing ms) (depth : Nat) :
    closing? depth (before cursor ms) = (closing? depth ms).filter (·.isBefore cursor) := by
  induction ms generalizing depth with
  | nil => rfl
  | cons m ms ih =>
    cases hm : m.position.isBefore cursor with
    | false =>
      rw [before_eq_nil h hm]
      cases hc : closing? depth (m :: ms) with
      | none => rfl
      | some p =>
        obtain ⟨m', hm', rfl⟩ := mem_of_closing? hc
        simp [Option.filter, isBefore_eq_false h hm m' hm', closing?]
    | true =>
      have htail := List.Pairwise.of_cons h
      rw [before_cons hm]
      obtain ⟨event, position⟩ := m
      cases event with
      | opened kind => exact ih htail _
      | closed kind =>
        cases depth with
        | zero => simp [closing?, Option.filter, hm]
        | succ depth => exact ih htail _

/-- **The groups that are open at a cursor** are those that the brackets before it leave unclosed. -/
theorem map_kind_isOpenAt (h : Increasing ms) :
    ((groups ms).filter (Group.isOpenAt cursor)).map Group.kind = unclosed (before cursor ms) := by
  induction ms with
  | nil => rfl
  | cons m ms ih =>
    have htail := List.Pairwise.of_cons h
    cases hm : m.position.isBefore cursor with
    | false =>
      have hnone : (groups (m :: ms)).filter (Group.isOpenAt cursor) = [] := by
        rw [List.filter_eq_nil_iff]
        intro g hg
        obtain ⟨m', hm', hstart⟩ := exists_of_mem_groups hg (Or.inl rfl)
        have hfalse := isBefore_eq_false h hm m' hm'
        simp [Group.isOpenAt, ← hstart, hfalse]
      rw [hnone, before_eq_nil h hm]
      rfl
    | true =>
      rw [before_cons hm]
      obtain ⟨event, position⟩ := m
      cases event with
      | closed kind => exact ih htail
      | opened kind =>
        have hclosing : closing? 0 (before cursor ms) = _ := closing?_before htail 0
        have hopen : Group.isOpenAt cursor ⟨kind, position, closing? 0 ms⟩ =
            (closing? 0 (before cursor ms)).isNone := by
          rw [hclosing]
          have hposition : position.isBefore cursor = true := hm
          cases closing? 0 ms with
          | none => simp [Group.isOpenAt, hposition]
          | some p => cases hp : p.isBefore cursor <;> simp [Group.isOpenAt, hposition, hp]
        have hih := ih htail
        simp only [unclosed, groups, List.filter_cons, hopen] at hih ⊢
        split <;> simp [hih]

end Mark

namespace Lexeme

variable {xs : List Lexeme}

/-- The brackets of the grammar stand in the order of their lexemes. -/
theorem increasing_marks (h : xs.Pairwise fun x y => x.position < y.position) :
    Mark.Increasing (marks xs) := by
  rw [Mark.Increasing, marks, List.pairwise_filterMap]
  refine (Spot.pairwise_annotate h).imp ?_
  intro p q hlt m hm m' hm'
  obtain ⟨e, -, rfl⟩ := Option.map_eq_some_iff.mp hm
  obtain ⟨e', -, rfl⟩ := Option.map_eq_some_iff.mp hm'
  exact hlt

/-- **No bracket of host code is a bracket of the grammar.** -/
theorem position_ne_of_isHost (h : xs.Pairwise fun x y => x.position < y.position)
    {p : Spot × Lexeme} (hp : p ∈ Spot.start.annotate xs) (hhost : p.1.isHost p.2.token = true) :
    ∀ m ∈ marks xs, m.position ≠ p.2.position := by
  intro m hm heq
  obtain ⟨q, hq, hmark⟩ := List.mem_filterMap.mp hm
  obtain ⟨e, he, rfl⟩ := Option.map_eq_some_iff.mp hmark
  have hnodup : ((Spot.start.annotate xs).map (·.2.position)).Nodup := by
    rw [List.nodup_iff_pairwise_ne, List.pairwise_map]
    refine (Spot.pairwise_annotate h).imp ?_
    intro p q hlt heq
    exact Position.lt_irrefl _ (heq ▸ hlt)
  have hpq : q = p := List.inj_on_of_nodup_map hnodup hq hp heq
  rw [hpq, Spot.event?_of_isHost hhost] at he
  cases he

end Lexeme

/-! ### The part without an error -/

namespace Parsing

variable {s s' : Parsing} {g : Goal} {gs : List Goal}

/-- The last state of a parse without an error. -/
def beforeError (s : Parsing) : Parsing :=
  match h : s.goals with
  | [] => s
  | goal :: goals =>
    have : (s.step goal goals).2.potential < s.potential := potential_step_lt s goal goals h
    if (s.step goal goals).2.diagnostics = [] then beforeError (s.step goal goals).2 else s
termination_by s.potential

/-- **After the last state without an error**, there is nothing to do or there is an error. -/
theorem beforeError_spec (s : Parsing) (hnil : s.diagnostics = []) :
    ∃ out, Reaches s out s.beforeError ∧ s.run.1 = out ++ s.beforeError.run.1 ∧
      s.beforeError.diagnostics = [] ∧
      ∀ g gs, s.beforeError.goals = g :: gs → (s.beforeError.step g gs).2.diagnostics ≠ [] := by
  fun_induction beforeError s with
  | case1 s h => exact ⟨[], .refl s, rfl, hnil, by simp [h]⟩
  | case2 s g gs h this hstep ih =>
    obtain ⟨out, hreach, hrun, hnil', herror⟩ := ih hstep
    refine ⟨(s.step g gs).1.toList ++ out, .step h hreach, ?_, hnil', herror⟩
    rw [run_of_goals_cons h, hrun, List.append_assoc]
  | case3 s g gs h this hstep =>
    refine ⟨[], .refl s, rfl, hnil, ?_⟩
    intro g' gs' h'
    obtain ⟨rfl, rfl⟩ : g = g' ∧ gs = gs' := by simpa using h.symm.trans h'
    exact hstep

/-- A step that records an error announces no bracket. -/
theorem mark?_of_step_ne_nil (hnil : s.diagnostics = [])
    (hne : (s.step g gs).2.diagnostics ≠ []) :
    (s.step g gs).1.bind Notification.mark? = none ∧ Goal.event? (g :: gs) = none := by
  have hturn := turn_step s g gs
  have hannounce : ∀ c, g ≠ .announce c := by
    rintro c rfl
    refine hne ?_
    have hmeet : (Goal.announce c).meet s.lookahead = .still (.tell c) := by
      cases s.lookahead <;> rfl
    rw [step_of_meet_still s gs hmeet]
    exact hnil
  refine ⟨?_, ?_⟩
  · cases hn : (s.step g gs).1 with
    | none => rfl
    | some n =>
      rw [hn] at hturn
      obtain ⟨c, rfl, htell | ⟨x, rest, -, hbefore⟩⟩ := hturn.some_cases
      · exact absurd (Goal.eq_announce_of_tell htell) (hannounce c)
      · have hevent := Goal.braceEvent?_of_before? hbefore
        simp [Notification.mark?, notice, hevent]
  · cases g with
    | announce c => exact absurd rfl (hannounce c)
    | _ => rfl

/-- **The brackets that are announced without an error** are those of the lexemes that are consumed
without one. -/
theorem exists_marks_run (lexemes : List Lexeme) (stop : Position) :
    ∃ read, read ++ (start lexemes stop).beforeError.rest = lexemes ∧
      ((start lexemes stop).run.1.filter (·.errorCount = 0)).filterMap Notification.mark? =
        Lexeme.marks read := by
  obtain ⟨out, hreach, hrun, hnil, herror⟩ := beforeError_spec (start lexemes stop) rfl
  obtain ⟨read, hread, htold⟩ := hreach.told hnil
  refine ⟨read, hread, ?_⟩
  have hout : out.filter (·.errorCount = 0) = out := by
    rw [List.filter_eq_self]
    intro n hn
    simpa using hreach.errorCount_eq_zero hnil n hn
  rw [hrun, List.filter_append, hout, List.filterMap_append, ← htold.marks]
  congr 1
  generalize (start lexemes stop).beforeError = last at hnil herror
  cases hgoals : last.goals with
  | nil => simp [run_of_goals_nil hgoals, pendingMark, hgoals, Goal.event?]
  | cons g gs =>
    -- The next step records an error, and all later notifications know of it.
    have hne := herror g gs hgoals
    obtain ⟨hmark, hevent⟩ := mark?_of_step_ne_nil hnil hne
    have hlate : (last.step g gs).2.run.1.filter (·.errorCount = 0) = [] := by
      rw [List.filter_eq_nil_iff]
      intro n hn
      simpa using (reaches_run _).errorCount_ne_zero hne n hn
    rw [run_of_goals_cons hgoals, List.filter_append, hlate, pendingMark, hgoals, hevent,
      List.append_nil]
    cases hn : (last.step g gs).1 with
    | none => rfl
    | some n =>
      rw [hn] at hmark
      have hnone : n.mark? = none := hmark
      rw [Option.toList_some, List.filter_cons]
      split <;> simp [hnone]

end Parsing

/-! ### What the stack holds -/

/-- The brackets before a cursor are told by the notifications before it. -/
theorem Notification.filterMap_mark?_beforeCursor (cursor : Position) (ns : List Notification) :
    (beforeCursor (some cursor) ns).filterMap mark? = Mark.before cursor (ns.filterMap mark?) := by
  rw [beforeCursor, Mark.before, List.filterMap_filter, List.filter_filterMap]
  congr 1
  funext n
  unfold mark?
  cases n.checkpoint.braceEvent? <;> simp [Option.filter]

/-- **The stack of open brackets is counted**, if every closing bracket finds its own kind. -/
theorem BraceStack.kinds_after {ns : List Notification}
    (h : ∀ earlier n later kind, ns = earlier ++ n :: later →
      n.checkpoint.braceEvent? = some (.closed kind) → (after earlier).closes kind = true) :
    (after ns).kinds = (ns.filterMap Notification.mark?).foldl Mark.count [] := by
  induction ns using List.reverseRecOn with
  | nil => rfl
  | append_singleton ns n ih =>
    have hns := ih fun earlier m later kind hsplit =>
      h earlier m (later ++ [n]) kind (by simp [hsplit])
    rw [after_concat, ← Option.toList_some, List.filterMap_append_toList, List.foldl_append, ← hns,
      Option.bind_some, Notification.mark?]
    cases he : n.checkpoint.braceEvent? with
    | none => rfl
    | some e =>
      cases e with
      | opened kind => rfl
      | closed kind =>
        have hcloses := h ns n [] kind rfl he
        simp [apply, pop, hcloses, Mark.count]

namespace ParseResult

variable (source : Text)

/-- **The error-free part of a source**: the lexemes that are consumed before an error is
recorded. -/
def errorFree : List Lexeme :=
  let lexemes := Lexeme.scan source
  let start := Parsing.start lexemes ((LineIndex.ofText source).position source.size)
  lexemes.take (lexemes.length - start.beforeError.rest.length)

/-- The error-free part is a beginning, and the rest of it has not been consumed. -/
theorem errorFree_eq {read rest : List Lexeme} (hread : read ++ rest = Lexeme.scan source)
    (hrest : rest = (Parsing.start (Lexeme.scan source)
      ((LineIndex.ofText source).position source.size)).beforeError.rest) :
    errorFree source = read := by
  have hlength : (Lexeme.scan source).length - rest.length = read.length := by
    rw [← hread, List.length_append]
    omega
  change (Lexeme.scan source).take ((Lexeme.scan source).length - _) = read
  rw [← hrest, hlength, ← hread, List.take_left]

theorem marks_clean :
    (ofSource source).clean.filterMap Notification.mark? = Lexeme.marks (errorFree source) := by
  obtain ⟨read, hread, hmarks⟩ := Parsing.exists_marks_run (Lexeme.scan source)
    ((LineIndex.ofText source).position source.size)
  rw [errorFree_eq source hread rfl]
  exact hmarks

theorem errorFree_isPrefix : errorFree source <+: Lexeme.scan source :=
  List.take_prefix _ _

variable {source}

/-- **Every closing bracket finds its own kind** on top of the brackets that have been announced
before it. -/
theorem closes_of_closed {earlier later : List Notification} {n : Notification} {kind : Brace}
    (hn : (ofSource source).notifications = earlier ++ n :: later) (hclean : n.errorCount = 0)
    (hkind : n.checkpoint.braceEvent? = some (.closed kind)) :
    (BraceStack.after earlier).closes kind = true ∧ ∀ m ∈ earlier, m.errorCount = 0 := by
  have hrun := Parsing.reaches_run
    (.start (Lexeme.scan source) ((LineIndex.ofText source).position source.size))
  rw [show (Parsing.run _).1 = earlier ++ n :: later from hn] at hrun
  obtain ⟨s, g, gs, s', hs, hg, hturn, -⟩ := hrun.split
  obtain ⟨c, rfl, hcases⟩ := hturn.some_cases
  have hnil : s.diagnostics = [] := List.length_eq_zero_iff.mp hclean
  have hkind : c.braceEvent? = some (.closed kind) := hkind
  refine ⟨?_, hs.errorCount_eq_zero hnil⟩
  -- Only an announcement tells of a bracket, and the goals have the bracket that it closes.
  have hannounce : g = .announce c := by
    rcases hcases with htell | ⟨x, rest, -, hbefore⟩
    · exact Goal.eq_announce_of_tell htell
    · rw [Goal.braceEvent?_of_before? hbefore] at hkind
      cases hkind
  have hstack := (hs.bracketed hnil).stack
  rw [hg, hannounce, Goal.brackets_closed hkind] at hstack
  simp [hstack, BraceStack.closes, BraceStack.top]

end ParseResult

/-- **The stack of brackets holds the groups that are open at the cursor.** Every closing bracket
that is heard before the cursor, without an error, finds its own kind on top of the stack. At the
end the stack lists, the outermost first, the kinds of the groups of the error-free part that are
open at the cursor. Brackets in host code neither open nor close a group. -/
theorem Session.braces_complete (session : Session) (source : Text) (cursor : Position) :
    let part := ParseResult.errorFree source
    let groups := Mark.groups (Lexeme.marks part)
    (∀ earlier n later kind,
      (ParseResult.ofSource source).notifications = earlier ++ n :: later → n.errorCount = 0 →
      n.current < cursor → n.checkpoint.braceEvent? = some (.closed kind) →
      (earlier.foldl Tracker.hear (session.tracker.begin (some cursor))).braces.closes kind =
        true) ∧
    (session.complete source cursor).2.tracker.braces.kinds.reverse =
      (groups.filter (Group.isOpenAt cursor)).map Group.kind ∧
    part <+: Lexeme.scan source ∧
    ∀ p ∈ Spot.start.annotate part, p.1.isHost p.2.token = true →
      ∀ g ∈ groups, g.start ≠ p.2.position ∧ g.stop ≠ some p.2.position := by
  intro part groups
  have hprefix := ParseResult.errorFree_isPrefix source
  have hpart : part.Pairwise fun x y => x.position < y.position :=
    (Lexeme.pairwise_scan source).sublist hprefix.sublist
  refine ⟨?_, ?_, hprefix, ?_⟩
  · intro earlier n later kind hn hclean hcurrent hkind
    obtain ⟨hcloses, hearlier⟩ := ParseResult.closes_of_closed hn hclean hkind
    have hknows := Tracker.knows_foldl hearlier (Tracker.knows_begin session.tracker (some cursor))
    -- What has been heard before a notification before the cursor is before the cursor.
    have hseen : Notification.beforeCursor (some cursor) earlier = earlier := by
      have hpairwise := ParseResult.pairwise_current source
      rw [hn, List.pairwise_append] at hpairwise
      rw [Notification.beforeCursor, List.filter_eq_self]
      intro m hm
      have hle := hpairwise.2.2 m hm n List.mem_cons_self
      simp only [Option.any_some, Position.isBefore, decide_eq_true_eq]
      by_contra hge
      exact Position.not_lt_trans hge hle hcurrent
    rw [hknows.braces, hseen]
    exact hcloses
  · obtain ⟨heard, hknows, hhear⟩ :=
      ParseResult.knows_hearAll source session.tracker (some cursor)
    have hbraces : (session.complete source cursor).2.tracker.braces =
        BraceStack.after (Notification.beforeCursor (some cursor)
          (ParseResult.ofSource source).clean) := by
      change ((session.tracker.begin (some cursor)).hearAll (ParseResult.ofSource source)).braces = _
      rw [hhear, Tracker.finish, Tracker.discard_eq, ← hknows.braces]
    have hmarks : (Notification.beforeCursor (some cursor)
        (ParseResult.ofSource source).clean).filterMap Notification.mark? =
          Mark.before cursor (Lexeme.marks part) := by
      rw [Notification.filterMap_mark?_beforeCursor, ParseResult.marks_clean]
    have hcount : (BraceStack.after (Notification.beforeCursor (some cursor)
        (ParseResult.ofSource source).clean)).kinds =
          (Mark.before cursor (Lexeme.marks part)).foldl Mark.count [] := by
      rw [← hmarks]
      refine BraceStack.kinds_after ?_
      intro earlier n later kind hsplit hkind
      have hmem : n ∈ (ParseResult.ofSource source).clean :=
        (ParseResult.beforeCursor_isPrefix source (some cursor)).subset (by simp [hsplit])
      obtain ⟨late, hlate⟩ := (ParseResult.beforeCursor_isPrefix source (some cursor)).trans
        (ParseResult.clean_isPrefix source)
      rw [hsplit, List.append_assoc, List.cons_append] at hlate
      exact (ParseResult.closes_of_closed hlate.symm (by simpa using (List.mem_filter.mp hmem).2)
        hkind).1
    rw [hbraces, hcount, Mark.foldl_count, Mark.map_kind_isOpenAt (Lexeme.increasing_marks hpart)]
    simp
  · intro p hp hhost g hg
    have hne := Lexeme.position_ne_of_isHost hpart hp hhost
    refine ⟨?_, ?_⟩
    · intro hstart
      obtain ⟨m, hm, hposition⟩ := Mark.exists_of_mem_groups hg (Or.inl hstart)
      exact hne m hm hposition
    · intro hstop
      obtain ⟨m, hm, hposition⟩ := Mark.exists_of_mem_groups hg (Or.inr hstop)
      exact hne m hm hposition

/-- Brackets before the grammar, in global code, attributes, an action and a condition do not count.
The bracket that is closed before the cursor finds its own kind, and two groups stay open. -/
theorem Session.braces_complete_look_alikes :
    let source := "([COMPILER A (< PRODUCTIONS A<([>(.([.)=IF((c))(\x7b[b]d".toList
    let parse := ParseResult.ofSource source
    parse.diagnostics.map Diagnostic.position = [⟨1, 54⟩] ∧
      (parse.notifications[19]?.map fun n => (n.errorCount, n.current, n.checkpoint.braceEvent?)) =
        some (0, ⟨1, 52⟩, some (.closed .bracket)) ∧
      ((parse.notifications.take 19).foldl Tracker.hear
        ({ target := some ⟨1, 54⟩ } : Tracker)).braces.closes .bracket = true ∧
      (({} : Session).complete source ⟨1, 54⟩).2.tracker.braces.kinds.reverse =
        [.paren, .brace] := by
  intro source parse
  obtain ⟨hcloses, hopen, -⟩ := Session.braces_complete ({} : Session) source ⟨1, 54⟩
  have hclosed : (parse.notifications[19]?.map
      fun n => (n.errorCount, n.current, n.checkpoint.braceEvent?)) =
        some (0, ⟨1, 52⟩, some (.closed .bracket)) := by decide +kernel
  refine ⟨by decide +kernel, hclosed, ?_, ?_⟩
  · obtain ⟨n, hn, hfields⟩ := Option.map_eq_some_iff.mp hclosed
    simp only [Prod.mk.injEq] at hfields
    obtain ⟨hlt, rfl⟩ := List.getElem?_eq_some_iff.mp hn
    refine hcloses _ _ (parse.notifications.drop 20) _ ?_ hfields.1 ?_ hfields.2.2
    · rw [← List.drop_eq_getElem_cons hlt, List.take_append_drop]
    · rw [hfields.2.1]
      decide
  · rw [hopen]
    decide +kernel

end GrammarWorkbench
