import GrammarWorkbench.Proofs.Parse.Brackets

/-!
# What stands behind a goal

The goals of a parse are not any list. Factors are always followed by the alternatives of their
expression, and these by the bracket or the period that ends it; an announcement is followed by what
it announces. `GrammarWorkbench.Goal.Follows` says for each goal what has to come after it, as far
as the productions are concerned, and `GrammarWorkbench.Goal.Laid` that the goals of a list are laid
out this way. The table only ever puts such lists in place of a goal
(`GrammarWorkbench.Goal.succeeds_of_consumes`).

Three more facts are about the places where goals come from.

* An announcement of the productions stands only behind a **firm** goal, one that wants a token or
  is an announcement itself (`GrammarWorkbench.Goal.joins`). So nothing that is dropped silently
  stands between such an announcement and the token before it.
* Once the productions have been announced, **only goals of productions are left**
  (`GrammarWorkbench.Goal.isProduction`).
* The start of an expression is announced a second time after the condition of a resolver, and there
  no further resolver may come. Such an announcement stands **only behind a condition**, which
  stands only behind its own announcement (`GrammarWorkbench.Goal.afterCondition`).

`GrammarWorkbench.Parsing.Reaches.arranged` carries them along a parse.
-/

namespace GrammarWorkbench

/-- The checkpoints that are announced from the productions on. -/
def Checkpoint.isProduction : Checkpoint → Bool
  | productionsKeyword | afterProductionName | expressionStart | resolverKeyword | alternative
  | groupOpened _ | groupClosed _ | afterFactor | afterWeak | afterSymbol | resolverCondition
  | productionDone | endKeyword | endName | afterEndName | afterAttributes | endOfGrammar
  | semanticText => true
  | _ => false

namespace Goal

variable {g : Goal} {gs next more : List Goal} {t : Option Token} {c : Checkpoint}

/-- The goals that are left from the productions on. -/
def isProduction : Goal → Bool
  | announce c => c.isProduction
  | require _ | productions | attributesOption _ | attributes _ | dottedAttributes | actionOption
  | action | resolverOption | condition _ | factors | alternatives | symbol | boundary => true
  | _ => false

/-- What comes after an announcement. -/
def Announces : Checkpoint → List Goal → Prop
  | .productionsKeyword, gs => gs.head? = some productions ∧ gs.all isProduction = true
  | .afterProductionName, gs => gs.head? = some (attributesOption .afterAttributes)
  | .afterAttributes, gs => gs.head? = some actionOption
  | .expressionStart, gs => gs.head? = some resolverOption ∨ gs.head? = some factors
  | .alternative, gs | .groupOpened _, gs => gs.head? = some resolverOption
  | .groupClosed _, gs | .afterFactor, gs => gs.head? = some factors
  | .resolverKeyword, gs => gs.head? = some (require .leftParen)
  | .afterWeak, gs => gs.head? = some symbol
  | .afterSymbol, gs => gs.head? = some (attributesOption .afterFactor)
  | .productionDone, gs => ∃ more, gs = boundary :: productions :: more
  | .endKeyword, gs => gs.head? = some (announce .endName)
  | .endName, gs => gs.head? = some (require .ident)
  | .afterEndName, gs => gs.head? = some (require .period)
  | _, _ => True

/-- **What comes after a goal.** -/
def Follows : Goal → List Goal → Prop
  | announce c, gs => Announces c gs
  | productionsOption, gs =>
    gs.head? = some (require .endKw) ∧ brackets gs = [] ∧ gs.all isProduction = true
  | productions, gs => gs.head? = some (require .endKw) ∧ brackets gs = []
  | resolverOption, gs | symbol, gs => gs.head? = some factors
  | factors, gs => gs.head? = some alternatives
  | alternatives, gs =>
    (gs.head? = some (require .period) ∧ brackets gs = []) ∨
      ∃ kind more, gs = require (Brace.closer kind) :: announce (.groupClosed kind) :: more
  | attributesOption c, gs =>
    (c = .afterFactor ∧ gs.head? = some factors) ∨
      (c = .afterAttributes ∧ gs.head? = some actionOption)
  | actionOption, gs => gs.head? = some (require .equal) ∨ gs.head? = some boundary
  | boundary, gs => gs.head? = some productions ∨ gs.head?.any (!·.isProduction) = true
  | _, _ => True

/-- The goals begin in a condition, or right after one. -/
def afterCondition : List Goal → Bool
  | condition _ :: _ => true
  | announce .expressionStart :: factors :: _ => true
  | _ => false

/-- The goals behind which a condition may go on. -/
def isCondition : Goal → Bool
  | announce .resolverCondition | condition _ => true
  | _ => false

/-- The goals that are not dropped silently: they announce something, or want a token. -/
def isFirm : Goal → Bool
  | announce c => c.isProduction
  | require _ | attributes _ | dottedAttributes | action | condition _ => true
  | _ => false

/-- **Where conditions and announcements may stand**: a condition behind its announcement, the end
of a condition behind it, and any announcement of the productions behind a firm goal. -/
def joins (g : Goal) : List Goal → Bool
  | condition _ :: _ => g.isCondition
  | announce .expressionStart :: factors :: _ => g.isCondition && g.isFirm
  | announce c :: _ => !c.isProduction || g.isFirm
  | _ => true

/-- **The goals are laid out well**: what follows each of them is right. -/
def Laid : List Goal → Prop
  | [] => True
  | g :: gs => g.Follows gs ∧ g.joins gs = true ∧ Laid gs

theorem laid_grammar : Laid grammar := by
  simp [grammar, Laid, Follows, Announces, joins, isFirm, brackets, isProduction,
    Checkpoint.isProduction, Checkpoint.braceEvent?]

theorem laid_of_append (h : Laid (next ++ gs)) : Laid gs := by
  induction next with
  | nil => exact h
  | cons g next ih => exact ih h.2.2

theorem isFirm_of_joins (h : g.joins (announce c :: gs) = true) (hc : c.isProduction = true) :
    g.isFirm = true := by
  unfold joins at h
  split at h <;> simp_all

theorem isCondition_of_afterCondition (h : g.joins gs = true) (hgs : afterCondition gs = true) :
    g.isCondition = true := by
  unfold afterCondition at hgs
  split at hgs
  · exact h
  · exact (Bool.and_eq_true _ _ ▸ h).1
  · cases hgs

/-- Anything may stand before the goals. -/
def isLoose : List Goal → Bool
  | condition _ :: _ => false
  | announce c :: _ => !c.isProduction
  | _ => true

theorem joins_of_isLoose (h : isLoose gs = true) (g : Goal) : g.joins gs = true := by
  unfold joins
  split <;> simp_all [isLoose, Checkpoint.isProduction]

theorem isLoose_of_joins (h : g.joins gs = true) (hcond : g.isCondition = false)
    (hfirm : g.isFirm = false) : isLoose gs = true := by
  unfold joins at h
  split at h <;> simp_all [isLoose]

theorem afterCondition_of_isLoose (h : isLoose gs = true) : afterCondition gs = false := by
  unfold afterCondition
  split <;> simp_all [isLoose, Checkpoint.isProduction]

/-- The goals that ask nothing of what follows, but that it is loose. -/
def isFree : Goal → Bool
  | announce c => !c.isProduction
  | productionsOption | productions | resolverOption | symbol | factors | alternatives
  | attributesOption _ | actionOption | boundary | condition _ => false
  | _ => true

theorem follows_of_isFree (h : g.isFree = true) : g.Follows gs := by
  cases g with
  | announce c => cases c <;> trivial
  | _ => trivial

theorem isLoose_of_isFree (h : g.isFree = true) : isLoose (g :: gs) = true := by
  cases g with
  | announce c => exact h
  | _ => first | rfl | exact h

/-- Free goals before goals that are laid out well. -/
theorem laid_append (hnext : next.all isFree = true) (hgs : Laid gs) (hloose : isLoose gs = true) :
    Laid (next ++ gs) ∧ isLoose (next ++ gs) = true := by
  induction next with
  | nil => exact ⟨hgs, hloose⟩
  | cons g next ih =>
    rw [List.all_cons, Bool.and_eq_true] at hnext
    obtain ⟨hlaid, hloose'⟩ := ih hnext.2
    exact ⟨⟨follows_of_isFree hnext.1, joins_of_isLoose hloose' g, hlaid⟩,
      isLoose_of_isFree hnext.1⟩

/-- The end of a declaration, between free goals, where no productions follow. -/
theorem laid_boundary {pre post : List Goal} (hpre : pre.all isFree = true)
    (hpost : post.all isFree = true) (hhead : post.head?.any (!·.isProduction) = true)
    (hgs : Laid gs) (hloose : isLoose gs = true) :
    Laid (pre ++ boundary :: post ++ gs) ∧ isLoose (pre ++ boundary :: post ++ gs) = true := by
  obtain ⟨hlaid, hloose'⟩ := laid_append hpost hgs hloose
  cases post with
  | nil => simp at hhead
  | cons g post =>
    have hboundary : Laid (boundary :: (g :: post ++ gs)) :=
      ⟨Or.inr hhead, joins_of_isLoose hloose' _, hlaid⟩
    rw [List.append_assoc]
    exact laid_append hpre hboundary rfl

/-! ### The table -/

theorem consumes_tokenFactorMove (hm : (tokenFactorMove t).Consumes next) :
    next.all isFree = true := by
  unfold tokenFactorMove at hm
  split at hm <;> simp at hm <;> subst hm <;> rfl

/-- The goals of a symbol before further factors. -/
theorem laid_symbolMove (hm : (symbolMove t).Consumes next) (hgs : Laid (factors :: gs)) :
    Laid (next ++ factors :: gs) ∧ afterCondition (next ++ factors :: gs) = false := by
  have hlaid : Laid ([announce .afterSymbol, attributesOption .afterFactor] ++ factors :: gs) := by
    refine ⟨rfl, rfl, Or.inl ⟨rfl, rfl⟩, rfl, hgs⟩
  unfold symbolMove at hm
  split at hm <;> simp at hm <;> subst hm <;> exact ⟨hlaid, rfl⟩

/-- The goals of a group before further factors. -/
theorem laid_group (kind : Brace) (hgs : Laid (factors :: gs)) :
    Laid (group kind ++ factors :: gs) :=
  ⟨rfl, rfl, rfl, rfl, rfl, rfl, Or.inr ⟨kind, _, rfl⟩, rfl, trivial, rfl, rfl, rfl,
    hgs⟩

/-- The goals of a factor before further factors. -/
theorem laid_factorMove (hm : (factorMove t).Consumes next) (hgs : Laid (factors :: gs)) :
    Laid (next ++ factors :: gs) ∧ afterCondition (next ++ factors :: gs) = false := by
  have hafter : Laid (announce .afterFactor :: factors :: gs) := ⟨rfl, rfl, hgs⟩
  unfold factorMove at hm
  split at hm
  · obtain rfl := Move.consumes_take.mp hm
    exact ⟨⟨rfl, rfl, rfl, rfl, hgs⟩, rfl⟩
  · obtain rfl := Move.consumes_take.mp hm
    exact ⟨laid_group .paren hgs, rfl⟩
  · obtain rfl := Move.consumes_take.mp hm
    exact ⟨laid_group .bracket hgs, rfl⟩
  · obtain rfl := Move.consumes_take.mp hm
    exact ⟨laid_group .brace hgs, rfl⟩
  · obtain rfl := Move.consumes_skip.mp hm
    exact ⟨⟨trivial, rfl, trivial, rfl, hafter⟩, rfl⟩
  · obtain rfl := Move.consumes_take.mp hm
    exact ⟨hafter, rfl⟩
  · obtain rfl := Move.consumes_take.mp hm
    exact ⟨hafter, rfl⟩
  · exact laid_symbolMove hm hgs

/-- The goals after a firm goal that goes on: it is replaced by one of its own kind. -/
theorem laid_of_isFirm {g' : Goal} (h : Laid (g :: gs)) (hfollows : g'.Follows gs)
    (hcond : g'.isCondition = g.isCondition) (hfirm : g'.isFirm = g.isFirm) : Laid (g' :: gs) := by
  obtain ⟨-, hjoins, hgs⟩ := h
  refine ⟨hfollows, ?_, hgs⟩
  unfold joins at hjoins ⊢
  rwa [hcond, hfirm]

/-! ### One move -/

/-- **Goals in place of the first one are right**: they are laid out well, and a condition goes on
only behind a condition. -/
def Succeeds (g : Goal) (gs next : List Goal) : Prop :=
  Laid (next ++ gs) ∧ (afterCondition (next ++ gs) = true → g.isCondition = true)

theorem succeeds_of_laid (hlaid : Laid (next ++ gs)) (h : afterCondition (next ++ gs) = false) :
    Succeeds g gs next := by
  refine ⟨hlaid, ?_⟩
  intro hc
  cases h.symm.trans hc

/-- The goal is done. -/
theorem succeeds_nil (h : Laid (g :: gs)) : Succeeds g gs [] :=
  ⟨h.2.2, isCondition_of_afterCondition h.2.1⟩

theorem isLoose_of_laid (h : Laid (g :: gs)) (hcond : g.isCondition = false)
    (hfirm : g.isFirm = false) : isLoose gs = true :=
  isLoose_of_joins h.2.1 hcond hfirm

/-- Most goals are replaced by free ones. -/
theorem succeeds_of_isFree (h : Laid (g :: gs)) (hcond : g.isCondition = false)
    (hfirm : g.isFirm = false) (hnext : next.all isFree = true) : Succeeds g gs next := by
  obtain ⟨hlaid, hloose⟩ := laid_append hnext h.2.2 (isLoose_of_laid h hcond hfirm)
  exact succeeds_of_laid hlaid (afterCondition_of_isLoose hloose)

/-- Others are replaced by a declaration, and what comes after it. -/
theorem succeeds_declaration (pre post : List Goal) (h : Laid (g :: gs))
    (hcond : g.isCondition = false) (hfirm : g.isFirm = false) (hpre : pre.all isFree = true)
    (hpost : post.all isFree = true) (hhead : post.head?.any (!·.isProduction) = true) :
    Succeeds g gs (pre ++ boundary :: post) := by
  obtain ⟨hlaid, hloose⟩ := laid_boundary hpre hpost hhead h.2.2 (isLoose_of_laid h hcond hfirm)
  exact succeeds_of_laid hlaid (afterCondition_of_isLoose hloose)

theorem succeeds_tokenDeclarations {s : TokenSection} (h : Laid (tokenDeclarations s :: gs))
    (hm : (declarationMove s t).Consumes next) : Succeeds (tokenDeclarations s) gs next := by
  have hrest : Laid (boundary :: announce s.checkpoint :: tokenDeclarations s :: gs) :=
    (succeeds_declaration [] [announce s.checkpoint, tokenDeclarations s] h rfl rfl rfl
      (by cases s <;> rfl) (by cases s <;> rfl)).1
  have hnext : Laid (definitionOption :: actionOption :: boundary :: announce s.checkpoint ::
      tokenDeclarations s :: gs) := ⟨trivial, rfl, Or.inr rfl, rfl, hrest⟩
  unfold declarationMove at hm
  split at hm <;> simp at hm <;> subst hm <;> exact succeeds_of_laid hnext rfl

theorem succeeds_productionsOption (h : Laid (productionsOption :: gs))
    (hm : (productionsOption.move t).Consumes next) : Succeeds productionsOption gs next := by
  have hloose := isLoose_of_laid h rfl rfl
  obtain ⟨hend, hbrackets, hall⟩ := h.1
  simp only [move] at hm
  repeat' split at hm
  · obtain rfl := Move.consumes_take.mp hm
    have hlaid : Laid (announce .productionsKeyword :: productions :: gs) :=
      ⟨⟨rfl, hall⟩, rfl, ⟨hend, hbrackets⟩, joins_of_isLoose hloose _, h.2.2⟩
    exact succeeds_of_laid hlaid rfl
  · exact absurd hm Move.not_consumes_pass
  · obtain rfl := Move.consumes_skip.mp hm
    exact succeeds_of_laid h rfl

/-- A production, and the remaining ones. -/
theorem succeeds_productions (h : Laid (productions :: gs))
    (hm : (productions.move t).Consumes next) : Succeeds productions gs next := by
  have hdone : Laid (announce .productionDone :: boundary :: productions :: gs) :=
    ⟨⟨gs, rfl⟩, rfl, Or.inl rfl, rfl, h⟩
  have hexpression : Laid (announce .expressionStart :: (expression ++ require .period ::
      announce .productionDone :: boundary :: productions :: gs)) :=
    ⟨Or.inl rfl, rfl, rfl, rfl, rfl, rfl, Or.inl ⟨rfl, h.1.2⟩, rfl, trivial, rfl, hdone⟩
  simp only [move] at hm
  split at hm
  · obtain rfl := Move.consumes_take.mp hm
    refine succeeds_of_laid ?_ rfl
    exact ⟨rfl, rfl, Or.inr ⟨rfl, rfl⟩, rfl, Or.inl rfl, rfl, trivial, rfl, hexpression⟩
  · exact absurd hm Move.not_consumes_pass

theorem succeeds_attributesOption (h : Laid (attributesOption c :: gs))
    (hm : ((attributesOption c).move t).Consumes next) : Succeeds (attributesOption c) gs next := by
  have hloose := isLoose_of_laid h rfl rfl
  have hafter : Laid (announce c :: gs) := by
    refine ⟨?_, joins_of_isLoose hloose _, h.2.2⟩
    rcases h.1 with ⟨rfl, hhead⟩ | ⟨rfl, hhead⟩ <;> exact hhead
  have hjoins : ∀ g : Goal, g.isFirm = true → g.joins (announce c :: gs) = true := by
    intro g hg
    rcases h.1 with ⟨rfl, -⟩ | ⟨rfl, -⟩ <;> exact hg
  simp only [move] at hm
  split at hm
  · obtain rfl := Move.consumes_skip.mp hm
    exact succeeds_of_laid ⟨trivial, rfl, trivial, hjoins _ rfl, hafter⟩ rfl
  · obtain rfl := Move.consumes_skip.mp hm
    exact succeeds_of_laid ⟨trivial, rfl, trivial, hjoins _ rfl, hafter⟩ rfl
  · exact absurd hm Move.not_consumes_pass

/-- A resolver, which ends with the announcement that no further resolver may follow. -/
theorem succeeds_resolverOption (h : Laid (resolverOption :: gs))
    (hm : (resolverOption.move t).Consumes next) : Succeeds resolverOption gs next := by
  have hloose := isLoose_of_laid h rfl rfl
  obtain ⟨gs', rfl⟩ := List.head?_eq_some_iff.mp h.1
  obtain ⟨-, rfl⟩ := consumes_optionMove.mp hm
  have hstart : Laid (announce .expressionStart :: factors :: gs') :=
    ⟨Or.inr rfl, joins_of_isLoose hloose _, h.2.2⟩
  exact succeeds_of_laid ⟨rfl, rfl, trivial, rfl, trivial, rfl, trivial, rfl, hstart⟩ rfl

/-- **What a move puts in place of a goal is right.** -/
theorem succeeds_of_consumes (h : Laid (g :: gs)) (hm : (g.move t).Consumes next) :
    Succeeds g gs next := by
  cases g with
  | announce c => rcases hm with ⟨_, hm⟩ | hm <;> cases hm
  | boundary => exact absurd hm Move.not_consumes_pass
  | tokenFactor => exact succeeds_of_isFree h rfl rfl (consumes_tokenFactorMove hm)
  | tokenFactors =>
    simp only [move] at hm
    split at hm
    · obtain ⟨goals, hgoals, rfl⟩ := Move.consumes_followedBy.mp hm
      refine succeeds_of_isFree h rfl rfl ?_
      rw [List.all_append, consumes_tokenFactorMove hgoals]
      rfl
    · exact absurd hm Move.not_consumes_pass
  | symbol =>
    obtain ⟨gs', rfl⟩ := List.head?_eq_some_iff.mp h.1
    obtain ⟨hlaid, hcond⟩ := laid_symbolMove hm h.2.2
    exact succeeds_of_laid hlaid hcond
  | factors =>
    simp only [move] at hm
    split at hm
    · obtain ⟨goals, hgoals, rfl⟩ := Move.consumes_followedBy.mp hm
      obtain ⟨hlaid, hcond⟩ := laid_factorMove hgoals h
      rw [List.append_cons] at hlaid hcond
      exact succeeds_of_laid hlaid hcond
    · exact absurd hm Move.not_consumes_pass
  | ignoreCaseOption | charactersOption | rangeOption | definitionOption | nestedOption
  | tokenAlternatives | contextOption =>
    obtain ⟨-, rfl⟩ := consumes_optionMove.mp hm
    exact succeeds_of_isFree h rfl rfl rfl
  | tokensOption s =>
    obtain ⟨-, rfl⟩ := consumes_optionMove.mp hm
    refine succeeds_of_isFree h rfl rfl ?_
    cases s <;> rfl
  | simpleSet =>
    simp only [move, simpleSetMove] at hm
    split at hm <;> simp at hm <;> subst hm <;> exact succeeds_of_isFree h rfl rfl rfl
  | charSets =>
    simp only [move] at hm
    split at hm
    · obtain rfl := Move.consumes_take.mp hm
      exact succeeds_declaration ([announce .charSetAssign, require .equal, announce .setOperand] ++
        set ++ [require .period]) [announce .charactersSection, charSets] h rfl rfl rfl rfl rfl
    · exact absurd hm Move.not_consumes_pass
  | commentDeclarations =>
    obtain ⟨-, rfl⟩ := consumes_optionMove.mp hm
    exact succeeds_declaration ([announce .commentsKeyword, require .fromKw,
      announce .tokenExpression] ++ tokenExpression ++ [announce .commentsFrom, require .toKw,
      announce .tokenExpression] ++ tokenExpression ++ [announce .commentsTo, nestedOption])
      [commentDeclarations] h rfl rfl rfl rfl rfl
  | ignoreSets =>
    obtain ⟨-, rfl⟩ := consumes_optionMove.mp hm
    exact succeeds_declaration (announce .setOperand :: set) [announce .ignoreSet, ignoreSets] h rfl
      rfl rfl rfl rfl
  | tokenDeclarations s => exact succeeds_tokenDeclarations h hm
  | productionsOption => exact succeeds_productionsOption h hm
  | productions => exact succeeds_productions h hm
  | attributesOption c => exact succeeds_attributesOption h hm
  | resolverOption => exact succeeds_resolverOption h hm
  | actionOption =>
    have hloose := isLoose_of_laid h rfl rfl
    simp only [move] at hm
    split at hm
    · obtain rfl := Move.consumes_skip.mp hm
      exact succeeds_of_laid ⟨trivial, rfl, trivial, joins_of_isLoose hloose _, h.2.2⟩ rfl
    · exact absurd hm Move.not_consumes_pass
  | alternatives =>
    obtain ⟨-, rfl⟩ := consumes_optionMove.mp hm
    exact succeeds_of_laid ⟨rfl, rfl, rfl, rfl, rfl, rfl, h⟩ rfl
  | condition depth =>
    refine ⟨?_, fun _ => rfl⟩
    simp only [move, conditionMove] at hm
    repeat' split at hm
    all_goals simp at hm
    all_goals subst hm
    all_goals first | exact h.2.2 | exact laid_of_isFirm h trivial rfl rfl
  | attributes depth =>
    simp only [move, attributesMove] at hm
    repeat' split at hm
    all_goals simp at hm
    all_goals subst hm
    all_goals first
      | exact succeeds_nil h
      | exact succeeds_of_laid (laid_of_isFirm h trivial rfl rfl) rfl
  | dottedAttributes | action =>
    simp only [move] at hm
    split at hm
    all_goals simp at hm
    all_goals subst hm
    all_goals first | exact succeeds_nil h | exact succeeds_of_laid h rfl
  | require kind =>
    simp only [move] at hm
    split at hm
    · obtain rfl := Move.consumes_take.mp hm
      exact succeeds_nil h
    · exact absurd hm (Move.not_consumes_fail _)
  | request | preamble | globalCode | productionsStart | setOperations | recovery =>
    simp only [move] at hm
    repeat' split at hm
    all_goals simp at hm
    all_goals subst hm
    all_goals exact succeeds_of_isFree h rfl rfl rfl

theorem isProduction_symbolMove (hm : (symbolMove t).Consumes next) :
    next.all isProduction = true := by
  unfold symbolMove at hm
  split at hm <;> simp at hm <;> subst hm <;> rfl

/-- **Goals of productions are replaced by goals of productions.** -/
theorem isProduction_consumes (hg : g.isProduction = true) (hfollows : g.Follows gs)
    (hm : (g.move t).Consumes next) : next.all isProduction = true := by
  cases g with
  | announce c => rcases hm with ⟨_, hm⟩ | hm <;> cases hm
  | boundary => exact absurd hm Move.not_consumes_pass
  | symbol => exact isProduction_symbolMove hm
  | factors =>
    simp only [move] at hm
    split at hm
    · obtain ⟨goals, hgoals, rfl⟩ := Move.consumes_followedBy.mp hm
      rw [List.all_append, Bool.and_eq_true]
      refine ⟨?_, rfl⟩
      unfold factorMove at hgoals
      split at hgoals
      case h_8 => exact isProduction_symbolMove hgoals
      all_goals simp at hgoals
      all_goals subst hgoals
      all_goals rfl
    · exact absurd hm Move.not_consumes_pass
  | resolverOption | alternatives =>
    obtain ⟨-, rfl⟩ := consumes_optionMove.mp hm
    rfl
  | attributesOption c =>
    rcases hfollows with ⟨rfl, -⟩ | ⟨rfl, -⟩
    all_goals
      simp only [move] at hm
      split at hm <;> simp at hm <;> subst hm <;> rfl
  | require | productions | actionOption | dottedAttributes | action | attributes | condition =>
    simp only [move, attributesMove, conditionMove] at hm
    repeat' split at hm
    all_goals simp at hm
    all_goals subst hm
    all_goals rfl
  | _ => cases hg

/-- A condition consumes tokens without a word. -/
theorem before_eq_none_of_isCondition (hg : g.isCondition = true) {before : Option Checkpoint}
    (hm : g.move t = .take before next) : before = none := by
  cases g with
  | condition depth =>
    simp only [move, conditionMove] at hm
    repeat' split at hm
    all_goals cases hm
    rfl
  | announce c => cases hm
  | _ => cases hg

end Goal

namespace Parsing

variable {s s' : Parsing} {g : Goal} {gs : List Goal} {n : Option Notification}
  {heard : List Notification}

/-- **The goals after some notifications.** -/
structure Arranged (heard : List Notification) (s : Parsing) : Prop where
  laid : Goal.Laid s.goals
  productions : (∃ n ∈ heard, n.checkpoint = .productionsKeyword) →
    s.goals.all Goal.isProduction = true
  condition : Goal.afterCondition s.goals = true →
    heard.getLast?.map Notification.checkpoint = some .resolverCondition

/-- What a clean turn that consumes a lexeme leaves. -/
theorem Arranged.consumes (h : Arranged heard s) (hg : s.goals = g :: gs) {t : Option Token}
    {next : List Goal} (hm : (g.move t).Consumes next) :
    Goal.Laid (next ++ gs) ∧
      ((∃ n ∈ heard, n.checkpoint = .productionsKeyword) →
        (next ++ gs).all Goal.isProduction = true) ∧
      (Goal.afterCondition (next ++ gs) = true →
        g.isCondition = true ∧
          heard.getLast?.map Notification.checkpoint = some .resolverCondition) := by
  obtain ⟨hlaid, hproductions, hcondition⟩ := h
  rw [hg] at hlaid hproductions hcondition
  obtain ⟨hnext, hafter⟩ := Goal.succeeds_of_consumes hlaid hm
  refine ⟨hnext, ?_, ?_⟩
  · intro hheard
    have hall := hproductions hheard
    rw [List.all_cons, Bool.and_eq_true] at hall
    rw [List.all_append, Goal.isProduction_consumes hall.1 hlaid.1 hm, hall.2]
    rfl
  · intro hc
    have hcond := hafter hc
    refine ⟨hcond, hcondition ?_⟩
    -- An announcement consumes nothing, so that the goal is the condition itself.
    cases g with
    | condition depth => rfl
    | announce c => rcases hm with ⟨_, hm⟩ | hm <;> cases hm
    | _ => cases hcond

/-- One clean turn keeps the goals in order. -/
theorem Arranged.cleanTurn (h : Arranged heard s) (hg : s.goals = g :: gs)
    (ht : CleanTurn s g gs n s') : Arranged (heard ++ n.toList) s' := by
  have harranged := h
  obtain ⟨hlaid, hproductions, hcondition⟩ := h
  rw [hg] at hlaid hproductions hcondition
  obtain ⟨hfollows, hjoins, hgs⟩ := hlaid
  have htail : (g :: gs).all Goal.isProduction = true → gs.all Goal.isProduction = true := by
    intro hall
    rw [List.all_cons, Bool.and_eq_true] at hall
    exact hall.2
  cases ht with
  | pass hm =>
    refine ⟨hgs, ?_, ?_⟩
    · intro hheard
      rw [Option.toList_none, List.append_nil] at hheard
      exact htail (hproductions hheard)
    · intro hc
      -- A condition is never dropped.
      have hcond := Goal.isCondition_of_afterCondition hjoins hc
      cases g with
      | announce c => exact absurd rfl (Goal.ne_announce_of_pass hm c)
      | condition depth =>
        rw [Option.toList_none, List.append_nil]
        exact hcondition rfl
      | _ => cases hcond
  | tell c hm =>
    obtain rfl := Goal.eq_announce_of_tell hm
    refine ⟨hgs, ?_, ?_⟩
    · rintro ⟨k, hk, hck⟩
      rcases List.mem_append.mp hk with hk | hk
      · exact htail (hproductions ⟨k, hk, hck⟩)
      · obtain rfl : k = s.notice c := by simpa using hk
        obtain rfl : c = .productionsKeyword := hck
        exact hfollows.2
    · intro hc
      have hcond := Goal.isCondition_of_afterCondition hjoins hc
      have hc : c = .resolverCondition := by
        unfold Goal.isCondition at hcond
        split at hcond <;> simp_all
      simp [notice, hc]
  | take x rest before next hrest hm hvalid =>
    obtain ⟨hlaid, hall, hcond⟩ := harranged.consumes hg (Or.inl ⟨before, hm⟩)
    refine ⟨hlaid, ?_, ?_⟩
    · rintro ⟨k, hk, hck⟩
      rcases List.mem_append.mp hk with hk | hk
      · exact hall ⟨k, hk, hck⟩
      · -- Before a token is taken, nothing but a name is announced.
        obtain ⟨c, rfl, rfl⟩ : ∃ c, before = some c ∧ s.notice c = k := by simpa using hk
        obtain rfl : c = .productionsKeyword := hck
        have hbefore : (g.move x.token).before? = some .productionsKeyword := by rw [hm]; rfl
        simpa using Goal.before?_cases hbefore
    · intro hc
      obtain ⟨hg', hlast⟩ := hcond hc
      obtain rfl := Goal.before_eq_none_of_isCondition hg' hm
      simpa using hlast
  | skip x rest next hrest hm =>
    obtain ⟨hlaid, hall, hcond⟩ := harranged.consumes hg (Or.inr hm)
    rw [Option.toList_none, List.append_nil]
    exact ⟨hlaid, hall, fun hc => (hcond hc).2⟩

/-- **As long as there is no error, the goals are in order.** -/
theorem Reaches.arranged {lexemes : List Lexeme} {stop : Position}
    (h : Reaches (start lexemes stop) heard s) (hnil : s.diagnostics = []) : Arranged heard s := by
  have hstart : Arranged [] (start lexemes stop) := ⟨Goal.laid_grammar, by simp, nofun⟩
  exact h.cleanInvariant hstart (fun heard s g gs hg hP n s' ht => hP.cleanTurn hg ht) hnil

end Parsing

end GrammarWorkbench
