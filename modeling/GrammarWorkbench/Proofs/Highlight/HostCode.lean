import GrammarWorkbench.Proofs.Highlight.Regions
import GrammarWorkbench.Proofs.Parse.Progress

/-!
# Where host code ends

Attributes and semantic actions are read twice, by two programs that know nothing of each other. A
parse has a **goal** for them, which stays in place until it meets the mark that closes them, and
highlighting has a **region**. A parse sees no comments, highlighting sees them. A parse gives up at
a literal that is cut off, highlighting colours it and goes on. Still they agree on the end: where a
parse has read host code from its first mark `x` to its last one `y`
(`GrammarWorkbench.Parsing.Encloses`), highlighting that sees notation before `x` sees host code up
to `y` and notation again after it (`GrammarWorkbench.Highlight.region_of_encloses`). The marks at
the two ends are highlighted as such, and no lexeme between them is.

The state of both is one and the same piece of host code (`GrammarWorkbench.HostCode`), which the
goal and the region carry along.
-/

namespace GrammarWorkbench

/-! ### Goals that read host code -/

namespace HostCode

variable {c c' : HostCode} {t : Option Token}

/-- What is marked stays marked until it is closed. -/
theorem region_ne_grammar_of_next (hc : c.region ≠ .grammar) (h : c.next t = some c') :
    c'.region ≠ .grammar := by
  unfold next at h
  split at h <;> cases h <;> first | exact hc | simp [region]

end HostCode

namespace Goal

variable {g code : Goal} {c : HostCode} {t : Option Token} {more : List Goal}

/-- **What a goal does with a lexeme of host code**: it keeps the count that reading keeps, or takes
the mark at which reading is over, or gives up. -/
theorem move_of_code? (hg : g.code? = some c) (hc : c.region ≠ .grammar) (t : Option Token) :
    (∃ g' c', g.move t = .skip [g'] ∧ g'.code? = some c' ∧ c.next t = some c') ∨
      (g.move t = .take none [] ∧ c.next t = none) ∨ ∃ e, g.move t = .fail e := by
  cases g with
  | attributes depth =>
    cases hg
    simp only [move, attributesMove]
    split
    · exact Or.inr (Or.inr ⟨_, rfl⟩)
    · exact Or.inl ⟨_, _, rfl, rfl, rfl⟩
    · cases depth with
      | zero => exact Or.inr (Or.inl ⟨rfl, rfl⟩)
      | succ depth => exact Or.inl ⟨_, _, rfl, rfl, rfl⟩
    · refine Or.inl ⟨_, _, rfl, rfl, ?_⟩
      unfold HostCode.next
      split <;> simp_all
  | dottedAttributes =>
    cases hg
    simp only [move]
    split
    · exact Or.inr (Or.inr ⟨_, rfl⟩)
    · exact Or.inr (Or.inl ⟨rfl, rfl⟩)
    · refine Or.inl ⟨_, _, rfl, rfl, ?_⟩
      unfold HostCode.next
      split <;> simp_all
  | action =>
    cases hg
    simp only [move]
    split
    · exact Or.inr (Or.inl ⟨rfl, rfl⟩)
    · exact Or.inr (Or.inr ⟨_, rfl⟩)
    · exact Or.inr (Or.inr ⟨_, rfl⟩)
    · refine Or.inl ⟨_, _, rfl, rfl, ?_⟩
      unfold HostCode.next
      split <;> simp_all
  | condition depth =>
    cases hg
    exact absurd rfl hc
  | _ => cases hg

/-- At the end of the source, a goal that reads host code gives up. -/
theorem atEnd_of_code? (hg : g.code? = some c) : ∃ e, g.atEnd = .still (.fail e) := by
  cases g with
  | attributes | dottedAttributes | action | condition => exact ⟨_, rfl⟩
  | _ => cases hg

/-- **The marks at which host code is entered**, and the goal that reads it. -/
theorem opened_of_move (h : g.move t = .skip (announce .semanticText :: code :: more)) :
    ∃ c, HostCode.openedBy? t = some c ∧ code.code? = some c ∧ c.region ≠ .grammar := by
  cases g with
  | attributesOption after =>
    simp only [move] at h
    split at h <;> cases h
    · exact ⟨_, rfl, rfl, by simp [HostCode.region]⟩
    · exact ⟨_, rfl, rfl, by simp [HostCode.region]⟩
  | actionOption =>
    simp only [move] at h
    split at h <;> cases h
    next ht => exact ⟨_, ht ▸ rfl, rfl, by simp [HostCode.region]⟩
  | factors =>
    simp only [move, factorMove, symbolMove] at h
    repeat' split at h
    all_goals cases h
    exact ⟨_, rfl, rfl, by simp [HostCode.region]⟩
  | tokenFactors =>
    simp only [move, tokenFactorMove] at h
    repeat' split at h
    all_goals cases h
  | _ =>
    simp only [move, simpleSetMove, tokenFactorMove, symbolMove, declarationMove, attributesMove,
      conditionMove, optionMove] at h
    repeat' split at h
    all_goals cases h

end Goal

/-! ### A parse inside host code -/

namespace Parsing

variable {s : Parsing} {g code : Goal} {gs : List Goal} {c : HostCode} {x y : Lexeme}

/-- **Host code is entered** at the lexeme `x`: the first goal skips it, gives notice of host code
and goes on to read it. The goals `gs` are left for the time after that. -/
def Enters (s : Parsing) (x : Lexeme) (gs : List Goal) : Prop :=
  ∃ g code more behind rest, s.goals = g :: behind ∧ s.rest = x :: rest ∧
    g.move x.token = .skip (.announce .semanticText :: code :: more) ∧ more ++ behind = gs

/-- **Host code is not over**: one goal still stands before those for the time after it. -/
def IsInside (s : Parsing) (gs : List Goal) : Prop :=
  ∃ code, s.goals = code :: gs

/-- **Host code is left** at the lexeme `y`, which the goal that reads it takes. -/
def Exits (s : Parsing) (y : Lexeme) (gs : List Goal) : Prop :=
  ∃ code rest, s.goals = code :: gs ∧ s.rest = y :: rest ∧ code.move y.token = .take none []

/-- **A parse reads host code from `x` to `y`.** It enters host code at `x` after `i` steps. From
the notice that it gives then, host code is not over for `n` more steps, and after them it is left
at `y`. -/
def Encloses (s : Parsing) (x y : Lexeme) : Prop :=
  ∃ i n gs, (next^[i] s).Enters x gs ∧
    (∀ k ≤ n, (next^[k] (next^[i] s).next.next).IsInside gs) ∧
    (next^[n] (next^[i] s).next.next).Exits y gs

theorem isInside_iff : s.IsInside gs ↔ s.goals ≠ [] ∧ s.goals.tail = gs := by
  cases h : s.goals <;> simp [IsInside, h]

instance (s : Parsing) (gs : List Goal) : Decidable (s.IsInside gs) :=
  decidable_of_iff _ isInside_iff.symm

/-- The two steps with which host code is entered. -/
theorem Enters.next_next (h : s.Enters x gs) :
    ∃ rest code c, s.rest = x :: rest ∧ s.next.next.rest = rest ∧
      s.next.next.goals = code :: gs ∧ code.code? = some c ∧ c.region ≠ .grammar ∧
      HostCode.openedBy? x.token = some c := by
  obtain ⟨g, code, more, behind, rest, hg, hrest, hmove, rfl⟩ := h
  obtain ⟨c, hopened, hcode, hc⟩ := Goal.opened_of_move hmove
  have hfirst : s.next = { s.consume x rest with
      goals := .announce .semanticText :: code :: (more ++ behind) } := by
    rw [next_of_goals_cons hg, step_of_move_skip hrest hmove]
    simp
  have htell : (Goal.announce .semanticText).meet s.next.lookahead =
      .still (.tell .semanticText) := by cases s.next.lookahead <;> rfl
  have hsecond : s.next.next = { s.next with goals := code :: (more ++ behind) } := by
    rw [next_of_goals_cons (congrArg goals hfirst), step_of_meet_still _ _ htell]
    rfl
  exact ⟨rest, code, c, hrest, by rw [hsecond, hfirst]; rfl, by rw [hsecond], hcode, hc, hopened⟩

/-- Host code that is given up is over. -/
theorem not_isInside_of_fail {e : SyntaxError} (hg : s.goals = code :: gs)
    (h : code.meet s.lookahead = .still (.fail e)) : ¬s.next.IsInside gs := by
  rintro ⟨code', hcode'⟩
  have hunwind : s.next.goals = unwind gs := by
    rw [next_of_goals_cons hg, step_of_meet_still s gs h]
    rfl
  have hle := length_unwind_le gs
  rw [← hunwind, hcode', List.length_cons] at hle
  omega

/-- **One step inside host code** skips one lexeme, which does not close it. -/
theorem IsInside.next (h : s.next.IsInside gs) (hg : s.goals = code :: gs)
    (hcode : code.code? = some c) (hc : c.region ≠ .grammar) :
    ∃ x rest code' c', s.rest = x :: rest ∧ s.next.rest = rest ∧ s.next.goals = code' :: gs ∧
      code'.code? = some c' ∧ c.next x.token = some c' := by
  have hstep := next_of_goals_cons hg
  obtain ⟨code', hcode'⟩ := h
  cases hrest : s.rest with
  | nil =>
    obtain ⟨e, he⟩ := Goal.atEnd_of_code? hcode
    have hmeet : code.meet s.lookahead = .still (.fail e) := by simp [lookahead, hrest, he]
    exact absurd ⟨code', hcode'⟩ (not_isInside_of_fail hg hmeet)
  | cons x rest =>
    rcases Goal.move_of_code? hcode hc x.token with
      ⟨g', c', hmove, hcode'', hnext⟩ | ⟨hmove, -⟩ | ⟨e, hmove⟩
    · have hskip : s.next = { s.consume x rest with goals := g' :: gs } := by
        rw [hstep, step_of_move_skip hrest hmove]
        rfl
      exact ⟨x, rest, g', c', rfl, by rw [hskip]; rfl, by rw [hskip], hcode'', hnext⟩
    · have htake : s.next.goals = gs := by
        rw [hstep, step_of_move_take hrest hmove]
        rfl
      have hlength := congrArg List.length (htake.symm.trans hcode')
      simp at hlength
    · have hmeet : code.meet s.lookahead = .still (.fail e) := by
        simp [lookahead, hrest, hmove, Move.fail]
      exact absurd ⟨code', hcode'⟩ (not_isInside_of_fail hg hmeet)

end Parsing

/-! ### Highlighting inside host code -/

namespace Highlight

namespace Region

variable {r : Region} {x : Lexeme} {xs : List Lexeme}

/-- **Host code stays open**: notation is not expected before any of the lexemes, nor after the last
of them. -/
def StaysOpen (r : Region) (xs : List Lexeme) : Prop :=
  ∀ u, u <+: xs → r.after u ≠ .grammar

theorem staysOpen_nil : r.StaysOpen [] ↔ r ≠ .grammar := by
  simp [StaysOpen, after]

theorem staysOpen_cons : r.StaysOpen (x :: xs) ↔ r ≠ .grammar ∧ (r.next x).StaysOpen xs := by
  constructor
  · intro h
    refine ⟨h [] List.nil_prefix, fun u hu => ?_⟩
    rw [← after_cons]
    exact h (x :: u) (List.cons_prefix_cons.mpr ⟨rfl, hu⟩)
  · rintro ⟨hr, hxs⟩ u hu
    rcases List.prefix_cons_iff.mp hu with rfl | ⟨v, rfl, hv⟩
    · exact hr
    · rw [after_cons]
      exact hxs v hv

/-- Comments between the lexemes change nothing. -/
theorem StaysOpen.of_filter (h : r.StaysOpen (xs.filter (!·.isComment))) : r.StaysOpen xs := by
  intro u hu
  rw [← after_filter]
  exact h _ (hu.filter _)

/-- **In host code, the mark that closes it is highlighted as a mark**, and nothing else is. -/
theorem kind?_eq_operator_iff (hr : r ≠ .grammar) :
    r.kind? x = some .operator ↔ r.next x = .grammar := by
  obtain ⟨token, start, text, position⟩ := x
  cases token with
  | none => exact iff_of_false (by simp [kind?]) hr
  | some t =>
    by_cases hident : t = .ident
    · -- A word is a keyword of the host language or nothing.
      subst hident
      have hnext : r.next ⟨some .ident, start, text, position⟩ = r := by cases r <;> rfl
      rw [kind?_of_ne_grammar hr rfl rfl, hnext]
      exact iff_of_false (by simp [inHost]) hr
    · cases r with
      | grammar => exact absurd rfl hr
      | action | dottedAttributes =>
        cases t <;> first
          | exact iff_of_true rfl rfl
          | exact iff_of_false (fun h => by cases h) (fun h => by cases h)
          | exact absurd rfl hident
      | attributes depth =>
        cases depth <;> cases t <;> first
          | exact iff_of_true rfl rfl
          | exact iff_of_false (fun h => by cases h) (fun h => by cases h)
          | exact absurd rfl hident

/-- In notation, the marks that open host code are highlighted as marks. -/
theorem kind?_grammar_of_next_ne (h : grammar.next x ≠ .grammar) :
    grammar.kind? x = some .operator := by
  obtain ⟨token, start, text, position⟩ := x
  cases token with
  | none => exact absurd rfl h
  | some t => cases t <;> first | rfl | exact absurd rfl h

end Region

variable {r : Region} {xs : List Lexeme}

theorem filter_operator_ofLexemes (h : r.StaysOpen xs) :
    (ofLexemes r xs).filter (·.kind = .operator) = [] := by
  induction xs generalizing r with
  | nil => rfl
  | cons x xs ih =>
    obtain ⟨hr, hxs⟩ := Region.staysOpen_cons.mp h
    have hnext : r.next x ≠ .grammar := hxs [] List.nil_prefix
    have hkind : r.kind? x ≠ some .operator := mt (Region.kind?_eq_operator_iff hr).mp hnext
    rw [ofLexemes_cons, List.filter_append, ih hxs, List.append_nil]
    cases hk : r.kind? x with
    | none => rfl
    | some kind =>
      rw [hk] at hkind
      simpa using hkind

end Highlight

namespace Parsing

variable {s : Parsing} {code : Goal} {gs : List Goal} {c : HostCode} {x y : Lexeme} {n : Nat}

open Highlight (Region)

/-- **Inside host code, highlighting keeps up with a parse.** The induction is on the steps. Each of
them skips one lexeme and leaves a goal and a region that carry the same host code. -/
theorem exists_read_of_isInside (hg : s.goals = code :: gs) (hcode : code.code? = some c)
    (hc : c.region ≠ .grammar) (h : ∀ k ≤ n, (next^[k] s).IsInside gs) :
    ∃ read code' c', s.rest = read ++ (next^[n] s).rest ∧ (next^[n] s).goals = code' :: gs ∧
      code'.code? = some c' ∧ c.region.after read = c'.region ∧ c.region.StaysOpen read := by
  induction n generalizing s code c with
  | zero => exact ⟨[], code, c, rfl, hg, hcode, rfl, Region.staysOpen_nil.mpr hc⟩
  | succ n ih =>
    obtain ⟨x, rest, code', c', hrest, hrest', hg', hcode', hnext⟩ :=
      IsInside.next (h 1 (Nat.le_add_left 1 n)) hg hcode hc
    have hregion : c.region.next x = c'.region := by rw [HostCode.next_region hc x, hnext]; rfl
    have hc' := HostCode.region_ne_grammar_of_next hc hnext
    obtain ⟨read, code'', c'', hread, hg'', hcode'', hafter, hopen⟩ :=
      ih hg' hcode' hc' fun k hk => h (k + 1) (Nat.succ_le_succ hk)
    refine ⟨x :: read, code'', c'', ?_, hg'', hcode'', ?_, ?_⟩
    · rw [hrest, List.cons_append, ← hrest', hread]
      rfl
    · rw [Region.after_cons, hregion, hafter]
    · rw [Region.staysOpen_cons, hregion]
      exact ⟨hc, hopen⟩

/-- What is left after some steps is the end of what was left before. -/
theorem isSuffix_iterate_next (s : Parsing) (n : Nat) : (next^[n] s).rest <:+ s.rest := by
  induction n with
  | zero => exact List.suffix_refl _
  | succ n ih =>
    rw [Function.iterate_succ_apply']
    refine List.IsSuffix.trans ?_ ih
    cases hg : (next^[n] s).goals with
    | nil => exact (congrArg rest (next_of_goals_nil hg)) ▸ List.suffix_refl _
    | cons g gs => exact Next.isSuffix ⟨g, gs, hg, next_of_goals_cons hg⟩

/-- **The lexeme at which a parse leaves host code** closes it for highlighting. -/
theorem Exits.region_next (h : s.Exits y gs) (hg : s.goals = code :: gs)
    (hcode : code.code? = some c) (hc : c.region ≠ .grammar) :
    c.region.next y = .grammar ∧ ∃ rest, s.rest = y :: rest := by
  obtain ⟨code', rest, hg', hrest, hmove⟩ := h
  obtain ⟨rfl, -⟩ := List.cons.inj (hg.symm.trans hg')
  refine ⟨?_, rest, hrest⟩
  rcases Goal.move_of_code? hcode hc y.token with ⟨g', c', hskip, -⟩ | ⟨-, hnext⟩ | ⟨e, hfail⟩
  · cases hmove.symm.trans hskip
  · rw [HostCode.next_region hc y, hnext]
    rfl
  · cases hmove.symm.trans hfail

/-- **Where a parse reads host code, highlighting has it open.** -/
theorem Encloses.exists_read (h : s.Encloses x y) :
    ∃ before read after, s.rest = before ++ x :: (read ++ y :: after) ∧
      (Region.grammar.next x).StaysOpen read ∧
      ((Region.grammar.next x).after read).next y = .grammar := by
  obtain ⟨i, n, gs, henters, hinside, hexits⟩ := h
  obtain ⟨before, hbefore⟩ := isSuffix_iterate_next s i
  obtain ⟨rest, code, c, hrest, hrest', hg, hcode, hc, hopened⟩ := henters.next_next
  obtain ⟨read, code', c', hread, hg', hcode', hafter, hopen⟩ :=
    exists_read_of_isInside hg hcode hc hinside
  have hregion : Region.grammar.next x = c.region := by rw [Region.next_grammar, hopened]; rfl
  have hc' : c'.region ≠ .grammar := hafter ▸ hopen read (List.prefix_refl read)
  obtain ⟨hclosed, after, hy⟩ := hexits.region_next hg' hcode' hc'
  refine ⟨before, read, after, ?_, hregion ▸ hopen, ?_⟩
  · rw [← hbefore, hrest, ← hrest', hread, hy]
  · rw [hregion, hafter, hclosed]

end Parsing

namespace Highlight

/-- **Host code ends for highlighting where it ends for the parse.** Between the two marks, comments
included, highlighting has host code open, and right after the second mark it expects notation
again. Of all these lexemes it shows the two marks as marks, and no other one. -/
theorem region_of_encloses (source : Text) (x y : Lexeme)
    (h : (Parsing.start (Lexeme.scan source)
      ((LineIndex.ofText source).position source.size)).Encloses x y) :
    ∃ pre inner post, Lexeme.scanAll source = pre ++ x :: (inner ++ y :: post) ∧
      (∀ u, u <+: inner → Region.grammar.after (x :: u) ≠ .grammar) ∧
      Region.grammar.after (x :: (inner ++ [y])) = .grammar ∧
      (ofLexemes .grammar (x :: (inner ++ [y]))).filter (·.kind = .operator) =
        [⟨.operator, x.start, x.stop⟩, ⟨.operator, y.start, y.stop⟩] := by
  obtain ⟨before, read, after, hscan, hopen, hclosed⟩ := h.exists_read
  obtain ⟨pre, rest, hall, -, hrest⟩ := exists_of_filter_eq_append_cons hscan
  obtain ⟨inner, post, rfl, rfl, -⟩ := exists_of_filter_eq_append_cons hrest
  have hinner := hopen.of_filter
  rw [Region.after_filter] at hclosed
  refine ⟨pre, inner, post, hall, hinner, ?_, ?_⟩
  · rw [Region.after_cons, Region.after_append, Region.after_cons, hclosed]
    rfl
  · have hx := Region.kind?_grammar_of_next_ne (hinner [] List.nil_prefix)
    have hy := (Region.kind?_eq_operator_iff (hinner inner (List.prefix_refl inner))).mpr hclosed
    rw [ofLexemes_cons, ofLexemes_append, ofLexemes_cons, hx, hy]
    simp [filter_operator_ofLexemes hinner, ofLexemes]

/-- Attributes that hold further angle brackets, a comment and a literal with such brackets in them,
the mark that closes dotted attributes, and a quote that is no token. -/
theorem region_of_encloses_nested :
    let source : Text :=
      "COMPILER A PRODUCTIONS A<out List</*>*/int> ' .> x, \">\"> = . END A.".toList
    let parse :=
      Parsing.start (Lexeme.scan source) ((LineIndex.ofText source).position source.size)
    let x : Lexeme := ⟨some .less, 24, ['<'], ⟨1, 25⟩⟩
    let y : Lexeme := ⟨some .greater, 55, ['>'], ⟨1, 56⟩⟩
    parse.Encloses x y ∧
      ∃ pre inner post, Lexeme.scanAll source = pre ++ x :: (inner ++ y :: post) ∧
        Region.grammar.after (x :: (inner ++ [y])) = .grammar := by
  intro source parse x y
  let opened := Parsing.next^[19] parse
  let closed := Parsing.next^[10] opened.next.next
  have hencloses : parse.Encloses x y := by
    refine ⟨19, 10, closed.goals.tail, ?_, by decide +kernel, ?_⟩
    · exact ⟨.attributesOption .afterAttributes, .attributes 0, [.announce .afterAttributes],
        opened.goals.tail, opened.rest.tail, by decide +kernel, by decide +kernel, rfl,
        by decide +kernel⟩
    · exact ⟨.attributes 0, closed.rest.tail, by decide +kernel, by decide +kernel, rfl⟩
  obtain ⟨pre, inner, post, hall, -, hregion, -⟩ := region_of_encloses source x y hencloses
  exact ⟨hencloses, pre, inner, post, hall, hregion⟩

end Highlight

end GrammarWorkbench
