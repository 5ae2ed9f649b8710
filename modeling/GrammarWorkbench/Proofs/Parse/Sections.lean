import GrammarWorkbench.Proofs.Parse.Announced

/-!
# The sections of a grammar come in order

The name of a grammar is declared first, and then character sets, tokens and productions, each kind
in a section of its own. Nothing is said about this in the notifications: the order is one of the
goals. The goals of a parse are sorted by what they can still declare, and a goal puts nothing in its
place that declares anything else (`GrammarWorkbench.Goal.sublist_next_move`). Therefore what has
been declared and what can still be declared make up one sorted list
(`GrammarWorkbench.Parsing.Reaches.sections`).
-/

namespace GrammarWorkbench

namespace DeclarationKind

/-- The place of a kind among the sections. -/
def rank : DeclarationKind → Nat
  | grammar => 0
  | charSet => 1
  | token => 2
  | production => 3

/-- Whether a declaration of one kind may come before one of another. A grammar is declared once. -/
def precedes (k k' : DeclarationKind) : Bool :=
  k.rank < k'.rank || (k == k' && k != .grammar)

end DeclarationKind

namespace Goal

variable {g : Goal} {t : Option Token} {c : Checkpoint} {k : DeclarationKind}

/-- What a goal can declare. -/
def declares? : Goal → Option DeclarationKind
  | announce c | attributesOption c => c.declaration?
  | charactersOption | charSets => some .charSet
  | tokensOption _ | tokenDeclarations _ => some .token
  | productionsOption | productions => some .production
  | _ => none

/-- What some goals can declare, in order. -/
def kinds (gs : List Goal) : List DeclarationKind :=
  gs.filterMap declares?

theorem kinds_cons (g : Goal) (gs : List Goal) : kinds (g :: gs) = g.declares?.toList ++ kinds gs := by
  rw [kinds, List.filterMap_cons]
  cases g.declares? <;> rfl

theorem kinds_append (gs gs' : List Goal) : kinds (gs ++ gs') = kinds gs ++ kinds gs' :=
  List.filterMap_append

theorem kinds_tokenFactorMove (t : Option Token) : kinds (tokenFactorMove t).next = [] := by
  unfold tokenFactorMove
  split <;> rfl

theorem kinds_symbolMove (t : Option Token) : kinds (symbolMove t).next = [] := by
  unfold symbolMove
  split <;> rfl

theorem kinds_factorMove (t : Option Token) : kinds (factorMove t).next = [] := by
  unfold factorMove
  split <;> first | rfl | exact kinds_symbolMove _

theorem kinds_followedBy {m : Move} {more : List Goal} (h : kinds m.next = [])
    (h' : kinds more = []) : kinds (m.followedBy more).next = [] := by
  cases m with
  | still s => rfl
  | _ => exact (kinds_append _ _).trans (by rw [h']; simpa using h)

/-- **A goal puts nothing in its place that declares anything else.** -/
theorem sublist_next_move (g : Goal) (t : Option Token) :
    (kinds (g.move t).next).Sublist g.declares?.toList := by
  -- Most goals declare nothing, and neither do the goals in their place.
  have hnil : kinds (g.move t).next = [] → (kinds (g.move t).next).Sublist g.declares?.toList :=
    fun h => h ▸ List.nil_sublist _
  cases g with
  | tokenFactor => exact hnil (kinds_tokenFactorMove t)
  | symbol => exact hnil (kinds_symbolMove t)
  | tokenFactors =>
    refine hnil ?_
    simp only [move]
    split
    · exact kinds_followedBy (kinds_tokenFactorMove t) rfl
    · rfl
  | factors =>
    refine hnil ?_
    simp only [move]
    split
    · exact kinds_followedBy (kinds_factorMove t) rfl
    · rfl
  | attributesOption c =>
    simp only [move]
    split
    · rw [Move.next_skip, kinds_cons, kinds_cons, kinds_cons]
      simp [declares?, kinds, Checkpoint.declaration?]
    · rw [Move.next_skip, kinds_cons, kinds_cons, kinds_cons]
      simp [declares?, kinds, Checkpoint.declaration?]
    · exact List.nil_sublist _
  | tokensOption s =>
    simp only [move, optionMove]
    split
    · cases s <;> exact List.Sublist.refl _
    · exact List.nil_sublist _
  | tokenDeclarations s =>
    simp only [move, declarationMove]
    cases s <;> split <;> first | exact List.Sublist.refl _ | exact List.nil_sublist _
  | charactersOption | charSets | productionsOption | productions =>
    simp only [move, optionMove]
    repeat' split
    all_goals first | exact List.Sublist.refl _ | exact List.nil_sublist _
  | _ =>
    simp only [move, optionMove, simpleSetMove, attributesMove, conditionMove]
    repeat' split
    all_goals exact List.nil_sublist _

/-- What is declared before a token is what the goal declares, and is no grammar. -/
theorem declares?_of_before? (h : (g.move t).before? = some c) (hc : c.declaration? = some k) :
    g.declares? = some k ∧ k ≠ .grammar := by
  -- Factors announce uses and no declarations.
  have hsymbol : (symbolMove t).before? = some c → c.declaration? = none := by
    intro h
    unfold symbolMove at h
    split at h <;> cases h
    rfl
  have htoken : (tokenFactorMove t).before? = some c → c.declaration? = none := by
    intro h
    unfold tokenFactorMove at h
    split at h <;> cases h
    rfl
  cases g with
  | charSets | productions =>
    simp only [move] at h
    split at h <;> cases h
    cases hc
    exact ⟨rfl, by decide⟩
  | tokenDeclarations s =>
    simp only [move, declarationMove] at h
    split at h <;> cases h <;> cases hc <;> exact ⟨rfl, by decide⟩
  | symbol =>
    rw [hsymbol h] at hc
    cases hc
  | tokenFactor =>
    rw [htoken h] at hc
    cases hc
  | tokenFactors =>
    simp only [move] at h
    split at h
    · rw [Move.before?_followedBy] at h
      rw [htoken h] at hc
      cases hc
    · cases h
  | factors =>
    simp only [move] at h
    split at h
    · rw [Move.before?_followedBy] at h
      unfold factorMove at h
      split at h <;> first
        | cases h
        | (rw [hsymbol h] at hc; cases hc)
    · cases h
  | _ =>
    simp only [move, optionMove, simpleSetMove, attributesMove, conditionMove] at h
    repeat' split at h
    all_goals cases h
    all_goals cases hc

end Goal

namespace Parsing

variable {s s' : Parsing} {g : Goal} {gs next : List Goal} {n : Option Notification}
  {heard : List Notification} {x : Lexeme}

/-- **What has been declared and what can still be declared** come in the order of the sections. -/
def Sectioned (heard : List Notification) (s : Parsing) : Prop :=
  (heard.filterMap (·.checkpoint.declaration?) ++ Goal.kinds s.goals).Pairwise
    fun k k' => k.precedes k' = true

/-- A consumed lexeme may be declared, and leaves what can be declared as it is. -/
theorem Sectioned.consume (h : Sectioned heard s) (hg : s.goals = g :: gs) (t : Option Token)
    {s' : Parsing} (hs' : s'.goals = (g.move t).next ++ gs) :
    Sectioned (heard ++ ((g.move t).before?.map s.notice).toList) s' := by
  have hnext := Goal.sublist_next_move g t
  unfold Sectioned at h ⊢
  rw [hg, Goal.kinds_cons] at h
  rw [hs', Goal.kinds_append, List.filterMap_append_toList, List.append_assoc]
  cases hd : ((g.move t).before?.map s.notice).bind (·.checkpoint.declaration?) with
  | none => exact h.sublist ((hnext.append_right _).append_left _)
  | some k =>
    -- The goal declares the kind that is announced, and may stay and declare it again.
    obtain ⟨c, hc, hk⟩ : ∃ c, (g.move t).before? = some c ∧ c.declaration? = some k := by
      cases hc : (g.move t).before? with
      | none => simp [hc] at hd
      | some c => exact ⟨c, rfl, by simpa [hc, notice] using hd⟩
    obtain ⟨hg', hne⟩ := Goal.declares?_of_before? hc hk
    have hself : k.precedes k = true := by simp [DeclarationKind.precedes, hne]
    rw [hg', Option.toList_some] at h hnext
    have htwice : (heard.filterMap (·.checkpoint.declaration?) ++ ([k] ++ ([k] ++
        Goal.kinds gs))).Pairwise fun k k' => k.precedes k' = true := by
      simp only [List.pairwise_append, List.singleton_append, List.pairwise_cons,
        List.mem_cons] at h ⊢
      grind
    refine htwice.sublist ?_
    exact ((hnext.append_right _).append_left _).append_left _

/-- One clean turn keeps the sections in order. -/
theorem Sectioned.cleanTurn (h : Sectioned heard s) (hg : s.goals = g :: gs)
    (ht : CleanTurn s g gs n s') : Sectioned (heard ++ n.toList) s' := by
  cases ht with
  | pass hm =>
    unfold Sectioned at h ⊢
    rw [hg, Goal.kinds_cons] at h
    rw [Option.toList_none, List.append_nil]
    exact h.sublist ((List.sublist_append_right _ _).append_left _)
  | tell c hm =>
    obtain rfl := Goal.eq_announce_of_tell hm
    unfold Sectioned at h ⊢
    rw [hg, Goal.kinds_cons, ← List.append_assoc] at h
    rw [List.filterMap_append_toList]
    exact h
  | take x rest before next hrest hm =>
    have hbefore : (g.move x.token).before? = before := by rw [hm]; rfl
    rw [← hbefore]
    exact h.consume hg x.token (by rw [hm]; rfl)
  | skip x rest next hrest hm =>
    have hbefore : (g.move x.token).before? = none := by rw [hm]; rfl
    have hconsume : Sectioned (heard ++ ((g.move x.token).before?.map s.notice).toList)
        { s.consume x rest with goals := next ++ gs } := h.consume hg x.token (by rw [hm]; rfl)
    rwa [hbefore] at hconsume

/-- **As long as there is no error, the sections come in order.** -/
theorem Reaches.sections {lexemes : List Lexeme} {stop : Position}
    (h : Reaches (start lexemes stop) heard s) (hnil : s.diagnostics = []) : Sectioned heard s := by
  have hstart : Sectioned [] (start lexemes stop) := by
    change (Goal.kinds Goal.grammar).Pairwise _
    decide
  exact h.cleanInvariant hstart (fun heard s g gs hg hP n s' ht => hP.cleanTurn hg ht) hnil

end Parsing

end GrammarWorkbench
