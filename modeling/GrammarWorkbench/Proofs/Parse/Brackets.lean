import GrammarWorkbench.Proofs.Parse.Clean

/-!
# The stack of open brackets mirrors the goals

A listener learns about brackets from the notifications alone, and keeps a stack of the open ones.
The parser keeps no such stack. It has goals, and among them is a goal for every bracket that has
still to be announced as closed. As long as there is no error the two agree: the open brackets can
be read off the goals (`GrammarWorkbench.Goal.brackets`), and the listener has exactly those
(`GrammarWorkbench.Parsing.Reaches.bracketed`). In particular every bracket that closes finds its
own kind on top of the stack.

One thing makes this work: **the goals of a group open and close one bracket**, so that whatever a
move puts in place of a goal leaves the open brackets as they are
(`GrammarWorkbench.Goal.neutral_next_move`).
-/

namespace GrammarWorkbench

/-- The open brackets after some notifications. -/
def BraceStack.after (ns : List Notification) : BraceStack :=
  ns.foldl (fun s n => (n.checkpoint.braceEvent?.map s.apply).getD s) .empty

theorem BraceStack.after_concat (ns : List Notification) (n : Notification) :
    after (ns ++ [n]) = (n.checkpoint.braceEvent?.map (after ns).apply).getD (after ns) := by
  simp [after]

namespace Goal

variable {g : Goal} {gs next more : List Goal} {t : Option Token} {c : Checkpoint} {k : Brace}

/-! ### The brackets among the goals -/

/-- **The brackets that are open before some goals**, the innermost first: all that are announced as
closed later and not announced as opened before that. -/
def brackets : List Goal → List Brace
  | [] => []
  | announce c :: gs =>
    match c.braceEvent? with
    | some (.opened _) => (brackets gs).tail
    | some (.closed kind) => kind :: brackets gs
    | none => brackets gs
  | _ :: gs => brackets gs

/-- A goal has nothing to do with brackets. -/
def isPlain : Goal → Bool
  | announce c | attributesOption c => c.braceEvent?.isNone
  | _ => true

theorem brackets_cons (h : g.isPlain = true) : brackets (g :: gs) = brackets gs := by
  cases g with
  | announce c =>
    have hc : c.braceEvent? = none := by simpa [isPlain] using h
    simp [brackets, hc]
  | _ => rfl

/-- Only announcements open and close brackets. -/
theorem brackets_cons_of_ne (h : ∀ c, g ≠ announce c) : brackets (g :: gs) = brackets gs := by
  cases g with
  | announce c => exact absurd rfl (h c)
  | _ => rfl

theorem brackets_opened (h : c.braceEvent? = some (.opened k)) :
    brackets (announce c :: gs) = (brackets gs).tail := by
  simp [brackets, h]

theorem brackets_closed (h : c.braceEvent? = some (.closed k)) :
    brackets (announce c :: gs) = k :: brackets gs := by
  simp [brackets, h]

/-- What a goal asks of the goals after it: a bracket that is announced as opened is closed by
them. -/
def Opens : Goal → List Goal → Prop
  | announce c, gs => ∀ kind, c.braceEvent? = some (.opened kind) → (brackets gs).head? = some kind
  | attributesOption c, _ => c.braceEvent? = none
  | _, _ => True

/-- **Brackets are well nested**: every goal gets what it asks of the goals after it. -/
def Nested : List Goal → Prop
  | [] => True
  | g :: gs => g.Opens gs ∧ Nested gs

theorem opens_of_isPlain (h : g.isPlain = true) : g.Opens gs := by
  cases g with
  | announce c =>
    have hc : c.braceEvent? = none := by simpa [isPlain] using h
    simp [Opens, hc]
  | attributesOption c => simpa [isPlain, Opens] using h
  | _ => trivial

/-! ### Goals that leave the open brackets as they are -/

/-- Goals that open no bracket without closing it. -/
structure Neutral (next : List Goal) : Prop where
  brackets : ∀ gs, brackets (next ++ gs) = Goal.brackets gs
  nested : ∀ gs, Nested gs → Nested (next ++ gs)

theorem neutral_nil : Neutral [] := ⟨fun _ => rfl, fun _ h => h⟩

theorem Neutral.append (h : Neutral next) (h' : Neutral more) : Neutral (next ++ more) := by
  constructor
  · intro gs
    rw [List.append_assoc, h.brackets, h'.brackets]
  · intro gs hgs
    rw [List.append_assoc]
    exact h.nested _ (h'.nested gs hgs)

theorem Neutral.cons (hg : g.isPlain = true) (h : Neutral next) : Neutral (g :: next) := by
  constructor
  · intro gs
    rw [List.cons_append, brackets_cons hg, h.brackets]
  · intro gs hgs
    exact ⟨opens_of_isPlain hg, h.nested gs hgs⟩

theorem neutral_of_isPlain (h : next.all isPlain = true) : Neutral next := by
  induction next with
  | nil => exact neutral_nil
  | cons g next ih =>
    rw [List.all_cons, Bool.and_eq_true] at h
    exact (ih h.2).cons h.1

/-- **A group opens one bracket and closes it.** -/
theorem neutral_bracketed (next : List Goal) {opened closed : Checkpoint}
    (ho : opened.braceEvent? = some (.opened k)) (hc : closed.braceEvent? = some (.closed k))
    (h : Neutral next) : Neutral (announce opened :: (next ++ [announce closed])) := by
  have hinner : ∀ gs, brackets (next ++ [announce closed] ++ gs) = k :: brackets gs := by
    intro gs
    rw [List.append_assoc, h.brackets]
    exact brackets_closed hc
  constructor
  · intro gs
    rw [List.cons_append, brackets_opened ho, hinner, List.tail_cons]
  · intro gs hgs
    refine ⟨?_, ?_⟩
    · intro k' hk'
      obtain rfl : k = k' := by simpa [ho] using hk'
      exact congrArg List.head? (hinner gs)
    · have hclosed : Nested (announce closed :: gs) := by
        refine ⟨?_, hgs⟩
        simp [Opens, hc]
      simpa using h.nested _ hclosed

theorem neutral_tokenGroup (kind : Brace) : Neutral (tokenGroup kind) :=
  neutral_bracketed (tokenExpression ++ [require kind.closer]) rfl rfl (neutral_of_isPlain rfl)

theorem neutral_group (kind : Brace) : Neutral (group kind) :=
  neutral_bracketed (expression ++ [require kind.closer]) rfl rfl (neutral_of_isPlain rfl)

/-! ### The table -/

theorem neutral_followedBy {m : Move} (h : Neutral m.next) (h' : Neutral more) :
    Neutral (m.followedBy more).next := by
  cases m with
  | still s => exact neutral_nil
  | take before next => exact h.append h'
  | skip next => exact h.append h'
  | spoil before e next => exact h.append h'

theorem neutral_optionMove {kind : Token} (h : Neutral next) :
    Neutral (optionMove kind next t).next := by
  unfold optionMove
  split
  · exact h
  · exact neutral_nil

theorem neutral_tokenFactorMove (t : Option Token) : Neutral (tokenFactorMove t).next := by
  unfold tokenFactorMove
  split <;> first | exact neutral_tokenGroup _ | exact neutral_of_isPlain rfl

theorem neutral_symbolMove (t : Option Token) : Neutral (symbolMove t).next := by
  unfold symbolMove
  split <;> exact neutral_of_isPlain rfl

theorem neutral_factorMove (t : Option Token) : Neutral (factorMove t).next := by
  unfold factorMove
  split <;> first
    | exact neutral_group _
    | exact neutral_symbolMove _
    | exact neutral_of_isPlain rfl

/-- **What a move puts in place of a goal leaves the open brackets as they are.** -/
theorem neutral_next_move (hg : g.Opens gs) (t : Option Token) : Neutral (g.move t).next := by
  cases g with
  | announce c => exact neutral_nil
  | boundary => exact neutral_nil
  | tokenFactor => exact neutral_tokenFactorMove t
  | symbol => exact neutral_symbolMove t
  | tokenFactors =>
    simp only [move]
    split
    · exact neutral_followedBy (neutral_tokenFactorMove t) (neutral_of_isPlain rfl)
    · exact neutral_nil
  | factors =>
    simp only [move]
    split
    · exact neutral_followedBy (neutral_factorMove t) (neutral_of_isPlain rfl)
    · exact neutral_nil
  | contextOption => exact neutral_optionMove ((neutral_tokenGroup .paren).cons rfl)
  | tokensOption s =>
    refine neutral_optionMove (neutral_of_isPlain ?_)
    cases s <;> rfl
  | ignoreCaseOption | charactersOption | rangeOption | definitionOption | commentDeclarations
  | nestedOption | ignoreSets | tokenAlternatives | resolverOption | alternatives =>
    exact neutral_optionMove (neutral_of_isPlain rfl)
  | tokenDeclarations s =>
    simp only [move, declarationMove]
    cases s <;> split <;> exact neutral_of_isPlain rfl
  | attributesOption c =>
    have hc : (announce c).isPlain = true := by simpa [Opens, isPlain] using hg
    simp only [move]
    split
    · exact ((neutral_nil.cons hc).cons rfl).cons rfl
    · exact ((neutral_nil.cons hc).cons rfl).cons rfl
    · exact neutral_nil
  | attributes depth =>
    simp only [move, attributesMove]
    repeat' split
    all_goals exact neutral_of_isPlain rfl
  | condition depth =>
    simp only [move, conditionMove]
    repeat' split
    all_goals exact neutral_of_isPlain rfl
  | simpleSet =>
    simp only [move, simpleSetMove]
    split <;> exact neutral_of_isPlain rfl
  | productionsOption | recovery =>
    simp only [move]
    repeat' split
    all_goals exact neutral_of_isPlain rfl
  | require | request | preamble | globalCode | productionsStart | actionOption | charSets
  | setOperations | productions | dottedAttributes | action =>
    simp only [move]
    split <;> exact neutral_of_isPlain rfl

/-- **What is announced before a token is consumed**: a name that is declared or used. -/
theorem before?_cases (h : (g.move t).before? = some c) :
    (g = productions ∧ t = some .ident ∧ c = .productionName) ∨
      ((g = factors ∨ g = symbol) ∧ t = some .ident ∧ c = .symbolReference) ∨
      (t = some .ident ∧ c = .charSetName) ∨ (t = some .ident ∧ c = .charSetReference) ∨
      c = .tokenName := by
  have hsymbol : (symbolMove t).before? = some c → t = some .ident ∧ c = .symbolReference := by
    intro h
    unfold symbolMove at h
    split at h <;> cases h
    exact ⟨rfl, rfl⟩
  have htoken : (tokenFactorMove t).before? = some c →
      t = some .ident ∧ c = .charSetReference := by
    intro h
    unfold tokenFactorMove at h
    split at h <;> cases h
    exact ⟨rfl, rfl⟩
  -- All other rows of the table have nothing before the token.
  cases g with
  | symbol => exact Or.inr (Or.inl ⟨Or.inr rfl, hsymbol h⟩)
  | factors =>
    simp only [move] at h
    split at h
    · rw [Move.before?_followedBy] at h
      unfold factorMove at h
      split at h <;> exact Or.inr (Or.inl ⟨Or.inl rfl, hsymbol h⟩)
    · cases h
  | tokenFactor => exact Or.inr (Or.inr (Or.inr (Or.inl (htoken h))))
  | tokenFactors =>
    simp only [move] at h
    split at h
    · rw [Move.before?_followedBy] at h
      exact Or.inr (Or.inr (Or.inr (Or.inl (htoken h))))
    · cases h
  | productions =>
    simp only [move] at h
    split at h
    next ht =>
      cases h
      exact Or.inl ⟨rfl, ht, rfl⟩
    next => cases h
  | _ =>
    simp only [move, optionMove, simpleSetMove, declarationMove, attributesMove, conditionMove] at h
    repeat' split at h
    all_goals cases h
    all_goals simp_all

/-- Nothing is announced about brackets before a token is consumed. -/
theorem braceEvent?_of_before? (h : (g.move t).before? = some c) : c.braceEvent? = none := by
  rcases before?_cases h with ⟨-, -, rfl⟩ | ⟨-, -, rfl⟩ | ⟨-, rfl⟩ | ⟨-, rfl⟩ | rfl <;> rfl

theorem ne_announce_of_pass {la : Option (Option Token)} (h : g.meet la = .still .pass) :
    ∀ c, g ≠ announce c := by
  rintro c rfl
  cases la <;> cases h

theorem ne_announce_of_take {before : Option Checkpoint} (h : g.move t = .take before next) :
    ∀ c, g ≠ announce c := by
  rintro c rfl
  cases h

theorem ne_announce_of_skip (h : g.move t = .skip next) : ∀ c, g ≠ announce c := by
  rintro c rfl
  cases h

/-- Only an announcement is told. -/
theorem eq_announce_of_tell {la : Option (Option Token)} (h : g.meet la = .still (.tell c)) :
    g = announce c := by
  cases la with
  | none =>
    cases g <;> cases h
    rfl
  | some t =>
    cases g with
    | announce c' =>
      cases h
      rfl
    | _ =>
      simp only [meet_some, move, optionMove, simpleSetMove, declarationMove, attributesMove,
        conditionMove, symbolMove, tokenFactorMove, factorMove] at h
      repeat' split at h
      all_goals cases h

end Goal

namespace Parsing

variable {s s' : Parsing} {g : Goal} {gs : List Goal} {n : Option Notification}
  {heard : List Notification}

/-- **The listener and the goals agree on the open brackets.** -/
structure Bracketed (heard : List Notification) (s : Parsing) : Prop where
  stack : BraceStack.after heard = ⟨Goal.brackets s.goals⟩
  nested : Goal.Nested s.goals

/-- What a listener has after an announcement. -/
theorem after_announce {c : Checkpoint} (hc : n.map Notification.checkpoint = some c)
    (hstack : BraceStack.after heard = ⟨Goal.brackets (.announce c :: gs)⟩)
    (hopens : (Goal.announce c).Opens gs) :
    BraceStack.after (heard ++ n.toList) = ⟨Goal.brackets gs⟩ := by
  obtain ⟨n, rfl, rfl⟩ := Option.map_eq_some_iff.mp hc
  rw [Option.toList_some, BraceStack.after_concat, hstack]
  cases he : n.checkpoint.braceEvent? with
  | none => simp [Goal.brackets, he]
  | some e =>
    cases e with
    | opened k =>
      -- The bracket is pushed onto the others, and the goals close it before them.
      have hhead := hopens k he
      rw [Goal.brackets_opened he]
      obtain ⟨l, hl⟩ := List.head?_eq_some_iff.mp hhead
      simp [hl, BraceStack.apply, BraceStack.push]
    | closed k =>
      rw [Goal.brackets_closed he]
      simp [BraceStack.apply, BraceStack.pop, BraceStack.closes, BraceStack.top]

/-- One clean turn keeps the listener and the goals together. -/
theorem Bracketed.cleanTurn (h : Bracketed heard s) (hg : s.goals = g :: gs)
    (ht : CleanTurn s g gs n s') : Bracketed (heard ++ n.toList) s' := by
  obtain ⟨hstack, hnested⟩ := h
  rw [hg] at hstack hnested
  obtain ⟨hopens, hgs⟩ := hnested
  cases ht with
  | pass hm =>
    rw [Goal.brackets_cons_of_ne (Goal.ne_announce_of_pass hm)] at hstack
    exact ⟨by simpa using hstack, hgs⟩
  | tell c hm =>
    obtain rfl := Goal.eq_announce_of_tell hm
    exact ⟨after_announce rfl hstack hopens, hgs⟩
  | take x rest before next hrest hm =>
    have hneutral := Goal.neutral_next_move hopens x.token
    rw [hm] at hneutral
    rw [Goal.brackets_cons_of_ne (Goal.ne_announce_of_take hm)] at hstack
    refine ⟨?_, hneutral.nested gs hgs⟩
    rw [← hneutral.brackets gs] at hstack
    cases before with
    | none => simpa using hstack
    | some c =>
      have hbefore : (g.move x.token).before? = some c := by rw [hm]; rfl
      have hevent := Goal.braceEvent?_of_before? hbefore
      rw [Option.map_some, Option.toList_some, BraceStack.after_concat, notice, hevent]
      exact hstack
  | skip x rest next hrest hm =>
    have hneutral := Goal.neutral_next_move hopens x.token
    rw [hm] at hneutral
    rw [Goal.brackets_cons_of_ne (Goal.ne_announce_of_skip hm), ← hneutral.brackets gs] at hstack
    exact ⟨by simpa using hstack, hneutral.nested gs hgs⟩

/-- **As long as there is no error, the listener has the open brackets of the goals.** -/
theorem Reaches.bracketed {lexemes : List Lexeme} {stop : Position}
    (h : Reaches (start lexemes stop) heard s) (hnil : s.diagnostics = []) : Bracketed heard s := by
  have hstart : Bracketed [] (start lexemes stop) := by
    refine ⟨rfl, ?_⟩
    simp [start, Goal.grammar, Goal.Nested, Goal.Opens, Checkpoint.braceEvent?]
  exact h.cleanInvariant hstart (fun heard s g gs hg hP n s' ht => hP.cleanTurn hg ht) hnil

end Parsing

end GrammarWorkbench
