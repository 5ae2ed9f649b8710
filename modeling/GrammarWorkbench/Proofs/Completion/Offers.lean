import GrammarWorkbench.Legal.Table
import GrammarWorkbench.Proofs.Legal.Members
import GrammarWorkbench.Proofs.Lexeme.Order
import GrammarWorkbench.Proofs.Lexeme.Spelling
import GrammarWorkbench.Proofs.Parse.Replay

/-!
# What is offered in a production is accepted next

The legal constructs after a checkpoint come from a table of their own, which knows nothing of the
goals of a parse. From the productions on the two agree: a lexeme that an offered construct stands
for is no error at that place (`GrammarWorkbench.ParseResult.position_eq_of_legal`).

* What is listed after a checkpoint is welcome to the goals that stand behind its announcement
  (`GrammarWorkbench.Goal.welcomes_of_mem_follow`).
* The closing bracket comes from the stack of open brackets, which mirrors the goals, and is
  therefore the one that the innermost group requires (`GrammarWorkbench.Goal.welcomes_closer`).
* What is announced before a name is taken stands before that name, and any symbol may take its
  place (`GrammarWorkbench.Goal.isIdle_of_isSymbol`).

There is one exception. After the condition of a resolver the start of an expression is announced
like the start of any other one, and a resolver is offered where none can follow.
-/

namespace GrammarWorkbench

/-! ### The tokens of a construct -/

namespace Construct

/-- **The construct stands for the token**: a placeholder for the names and literals that can take
its place, any other construct for the token with its spelling. -/
def standsFor (k : Construct) (t : Token) : Bool :=
  match k with
  | existingToken => t.isSymbol
  | existingProduction | productionName | grammarName => t == .ident
  | _ => k.keyword?.isSome && k.keyword? == t.spelling?

/-- The tokens that a construct stands for. -/
def standIns : Construct → List Token
  | existingToken => [.ident, .string, .char]
  | existingProduction | productionName | grammarName => [.ident]
  | k => k.token?.toList

theorem mem_standIns {k : Construct} {t : Token} (h : k.standsFor t = true) : t ∈ k.standIns := by
  have hspelled : (k.keyword?.isSome && k.keyword? == t.spelling?) = true → k.token? = some t := by
    intro h
    rw [Bool.and_eq_true, beq_iff_eq] at h
    obtain ⟨hsome, heq⟩ := h
    cases ht : k.token? with
    | none => simp [keyword?, ht] at hsome
    | some t' =>
      have hword : k.keyword? = t'.spelling? := by simp [keyword?, ht]
      rw [hword] at hsome heq
      rw [Token.eq_of_spelling? heq hsome]
  unfold standsFor at h
  split at h
  · unfold Token.isSymbol at h
    split at h <;> simp_all [standIns]
  · simpa [standIns] using h
  · simpa [standIns] using h
  · simpa [standIns] using h
  · have htoken := hspelled h
    unfold standIns
    split <;> simp_all

end Construct

/-- The closing construct stands for the closer. -/
theorem Brace.standIns_closing (kind : Brace) : kind.closing.standIns = [kind.closer] := by
  cases kind <;> rfl

namespace Goal

variable {g : Goal} {gs more : List Goal} {c : Checkpoint} {k : Construct} {t : Token}

/-! ### The listed constructs -/

/-- All tokens of the listed constructs are welcome. -/
def welcomesAll (ks : List Construct) (gs : List Goal) : Bool :=
  ks.all fun k => k.standIns.all fun t => welcomes (some t) gs

theorem welcomes_of_welcomesAll {ks : List Construct} (h : welcomesAll ks gs = true) (hk : k ∈ ks)
    (ht : t ∈ k.standIns) : welcomes (some t) gs = true :=
  List.all_eq_true.mp (List.all_eq_true.mp h k hk) t ht

/-- **Inside an expression**: factors and alternatives are left, perhaps after a resolver or after
attributes, and then what ends the expression. -/
def InExpression (gs : List Goal) : Prop :=
  ∃ before more, gs = before ++ factors :: alternatives :: more ∧ alternatives.Follows more ∧
    (before = [] ∨ before = [resolverOption] ∨ before = [attributesOption .afterFactor])

theorem exists_alternatives (h : Laid gs) (hhead : gs.head? = some factors) :
    ∃ more, gs = factors :: alternatives :: more ∧ alternatives.Follows more := by
  obtain ⟨gs', rfl⟩ := List.head?_eq_some_iff.mp hhead
  obtain ⟨more, rfl⟩ := List.head?_eq_some_iff.mp h.1
  exact ⟨more, rfl, h.2.2.1⟩

theorem inExpression_of_factors (h : Laid gs) (hhead : gs.head? = some factors) :
    InExpression gs := by
  obtain ⟨more, rfl, hmore⟩ := exists_alternatives h hhead
  exact ⟨[], more, rfl, hmore, Or.inl rfl⟩

theorem inExpression_of_resolverOption (h : Laid gs) (hhead : gs.head? = some resolverOption) :
    InExpression gs := by
  obtain ⟨gs', rfl⟩ := List.head?_eq_some_iff.mp hhead
  obtain ⟨more, rfl, hmore⟩ := exists_alternatives h.2.2 h.1
  exact ⟨[resolverOption], more, rfl, hmore, Or.inr (Or.inl rfl)⟩

theorem inExpression_of_attributesOption (h : Laid gs)
    (hhead : gs.head? = some (attributesOption .afterFactor)) : InExpression gs := by
  obtain ⟨gs', rfl⟩ := List.head?_eq_some_iff.mp hhead
  rcases h.1 with ⟨-, hhead⟩ | ⟨hc, -⟩
  · obtain ⟨more, rfl, hmore⟩ := exists_alternatives h.2.2 hhead
    exact ⟨[attributesOption .afterFactor], more, rfl, hmore, Or.inr (Or.inr rfl)⟩
  · cases hc

/-- The checkpoints inside productions where a group may be closed are announced inside an
expression. -/
theorem inExpression_of_laid (h : Laid (announce c :: gs)) (hc : c.isProduction = true)
    (hin : c.isInsideExpression = true) : InExpression gs := by
  obtain ⟨hfollows, -, hgs⟩ := h
  cases c with
  | expressionStart =>
    rcases hfollows with hhead | hhead
    · exact inExpression_of_resolverOption hgs hhead
    · exact inExpression_of_factors hgs hhead
  | alternative | groupOpened => exact inExpression_of_resolverOption hgs hfollows
  | groupClosed | afterFactor => exact inExpression_of_factors hgs hfollows
  | afterSymbol => exact inExpression_of_attributesOption hgs hfollows
  | tokenExpression | tokenOpened | tokenClosed => cases hc
  | _ => cases hin

/-- **The innermost open bracket may be closed inside an expression.** The goals say which one that
is, and require its closer after the alternatives. -/
theorem welcomes_closer (h : InExpression gs) {kind : Brace}
    (htop : (brackets gs).head? = some kind) : welcomes (some kind.closer) gs = true := by
  obtain ⟨before, more, rfl, hmore, hbefore⟩ := h
  have hbrackets : brackets (before ++ factors :: alternatives :: more) = brackets more := by
    rcases hbefore with rfl | rfl | rfl <;> rfl
  rw [hbrackets] at htop
  rcases hmore with ⟨-, hnil⟩ | ⟨kind', more', rfl⟩
  · rw [hnil] at htop
    cases htop
  · obtain rfl : kind' = kind := Option.some.inj htop
    rcases hbefore with rfl | rfl | rfl <;> cases kind' <;> rfl

/-- **What is listed after a checkpoint is welcome to the goals behind it**, save a resolver after
the condition of a resolver. -/
theorem welcomes_of_mem_follow (h : Laid (announce c :: gs)) (hc : c.isProduction = true)
    (hk : k ∈ c.follow) (ht : t ∈ k.standIns)
    (hresolver : k = .resolver → c = .expressionStart → gs.head? ≠ some factors) :
    welcomes (some t) gs = true := by
  obtain ⟨hfollows, -, hgs⟩ := h
  -- The layout fixes the goals behind each announcement as far as the listed tokens can get.
  cases c with
  | productionsKeyword =>
    obtain ⟨more, rfl⟩ := List.head?_eq_some_iff.mp hfollows.1
    exact welcomes_of_welcomesAll rfl hk ht
  | afterProductionName =>
    obtain ⟨gs', rfl⟩ := List.head?_eq_some_iff.mp hfollows
    rcases hgs.1 with ⟨hc, -⟩ | ⟨-, hhead⟩
    · cases hc
    · obtain ⟨more, rfl⟩ := List.head?_eq_some_iff.mp hhead
      exact welcomes_of_welcomesAll rfl hk ht
  | expressionStart =>
    rcases hfollows with hhead | hhead
    · obtain ⟨gs', rfl⟩ := List.head?_eq_some_iff.mp hhead
      obtain ⟨more, rfl, -⟩ := exists_alternatives hgs.2.2 hgs.1
      exact welcomes_of_welcomesAll rfl hk ht
    · obtain ⟨more, rfl, -⟩ := exists_alternatives hgs hhead
      rcases List.mem_cons.mp hk with rfl | hk
      · exact absurd rfl (hresolver rfl rfl)
      · exact welcomes_of_welcomesAll rfl hk ht
  | alternative | groupOpened =>
    obtain ⟨gs', rfl⟩ := List.head?_eq_some_iff.mp hfollows
    obtain ⟨more, rfl, -⟩ := exists_alternatives hgs.2.2 hgs.1
    exact welcomes_of_welcomesAll rfl hk ht
  | groupClosed | afterFactor =>
    obtain ⟨more, rfl, -⟩ := exists_alternatives hgs hfollows
    exact welcomes_of_welcomesAll rfl hk ht
  | afterSymbol =>
    obtain ⟨gs', rfl⟩ := List.head?_eq_some_iff.mp hfollows
    rcases hgs.1 with ⟨-, hhead⟩ | ⟨hc, -⟩
    · obtain ⟨more, rfl, -⟩ := exists_alternatives hgs.2.2 hhead
      exact welcomes_of_welcomesAll rfl hk ht
    · cases hc
  | productionDone =>
    obtain ⟨gs', rfl⟩ := hfollows
    obtain ⟨more, rfl⟩ := List.head?_eq_some_iff.mp hgs.2.2.1.1
    exact welcomes_of_welcomesAll rfl hk ht
  | endKeyword =>
    obtain ⟨gs', rfl⟩ := List.head?_eq_some_iff.mp hfollows
    obtain ⟨more, rfl⟩ := List.head?_eq_some_iff.mp hgs.1
    exact welcomes_of_welcomesAll rfl hk ht
  | resolverKeyword | afterWeak | endName | afterEndName | afterAttributes =>
    obtain ⟨more, rfl⟩ := List.head?_eq_some_iff.mp hfollows
    exact welcomes_of_welcomesAll rfl hk ht
  | resolverCondition | endOfGrammar | semanticText => cases hk
  | _ => cases hc

/-- **The table of legal constructs agrees with the goals**: what is legal after a checkpoint of the
productions is welcome to the goals behind its announcement. -/
theorem welcomes_of_legal (h : Laid (announce c :: gs)) (hc : c.isProduction = true)
    (hk : (ConstructSet.legal (some c) (brackets gs).head?).contains k = true)
    (ht : t ∈ k.standIns)
    (hresolver : k = .resolver → c = .expressionStart → gs.head? ≠ some factors) :
    welcomes (some t) gs = true := by
  rcases ConstructSet.contains_legal.mp hk with hk | ⟨hin, hk⟩
  · exact welcomes_of_mem_follow h hc hk ht hresolver
  · obtain ⟨kind, hkind, rfl⟩ := Option.map_eq_some_iff.mp hk
    rw [Brace.standIns_closing] at ht
    obtain rfl := List.mem_singleton.mp ht
    exact welcomes_closer (inExpression_of_laid h hc hin) hkind

/-! ### Before a name -/

/-- **Where a name can be read on to, so can a literal.** -/
theorem isIdle_of_isSymbol (h : (g.move (some .ident)).isIdle = true) (ht : t.isSymbol = true) :
    (g.move (some t)).isIdle = true := by
  have hsymbol : t = .ident ∨ t = .string ∨ t = .char := by
    unfold Token.isSymbol at ht
    split at ht <;> simp_all
  rcases hsymbol with rfl | rfl | rfl
  · exact h
  all_goals
    cases g with
    | tokensOption s => cases s <;> rfl
    | require kind | request kind =>
      simp only [move] at h
      split at h <;> cases h
    | _ => first | rfl | cases h

/-- Symbols are welcome to the factors of a production. -/
theorem welcomes_of_isSymbol (hg : g = factors ∨ g = symbol) (ht : t.isSymbol = true) :
    welcomes (some t) (g :: gs) = true := by
  unfold Token.isSymbol at ht
  split at ht
  case h_4 => cases ht
  all_goals rcases hg with rfl | rfl <;> rfl

/-- **What is offered before a name is welcome in its place.** -/
theorem welcomes_of_before? {la : Option Token} (gs : List Goal)
    (h : (g.move la).before? = some c) (hk : k ∈ c.follow) (ht : t ∈ k.standIns) :
    la = some .ident ∧ t.isSymbol = true ∧ welcomes (some t) (g :: gs) = true := by
  rcases before?_cases h with ⟨rfl, hla, rfl⟩ | ⟨hg, hla, rfl⟩ | ⟨-, rfl⟩ | ⟨-, rfl⟩ | rfl
  · obtain rfl : k = .productionName := List.mem_singleton.mp hk
    obtain rfl : t = .ident := List.mem_singleton.mp ht
    exact ⟨hla, rfl, rfl⟩
  · have hsymbol : t.isSymbol = true := by
      rcases List.mem_cons.mp hk with rfl | hk
      · exact (by decide : ∀ t ∈ Construct.existingToken.standIns, t.isSymbol = true) t ht
      · obtain rfl := List.mem_singleton.mp hk
        obtain rfl : t = .ident := List.mem_singleton.mp ht
        rfl
    exact ⟨hla, hsymbol, welcomes_of_isSymbol hg hsymbol⟩
  · cases hk
  · -- The name of a character set stands for no token of a production.
    obtain rfl := List.mem_singleton.mp hk
    cases ht
  · cases hk

end Goal

/-! ### Offers are accepted -/

namespace Parsing

variable {s s' : Parsing} {g : Goal} {gs dropped : List Goal} {heard : List Notification}
  {lexemes read : List Lexeme} {n : Notification} {k : Construct} {t : Token}

/-- What is offered at an announcement is welcome to the goals before it. -/
theorem Replays.welcomes_of_tell {c : Checkpoint} (h : Replays lexemes read dropped s)
    (harranged : Arranged heard s)
    (hbracketed : Bracketed (heard ++ [s.notice c]) { s with goals := gs })
    (hg : s.goals = .announce c :: gs)
    (hproductions : ∃ m ∈ heard ++ [s.notice c], m.checkpoint = .productionsKeyword)
    (hk : (ConstructSet.legal (some c) (BraceStack.after (heard ++ [s.notice c])).top).contains k
      = true)
    (hresolver : k = .resolver → c = .expressionStart →
      heard.getLast?.map Notification.checkpoint ≠ some .resolverCondition)
    (ht : t ∈ k.standIns) : Goal.welcomes (some t) (dropped ++ s.goals) = true := by
  have hc : c.isProduction = true := by
    obtain ⟨m, hmem, hm⟩ := hproductions
    rcases List.mem_append.mp hmem with hmem | hmem
    · have hall := harranged.productions ⟨m, hmem, hm⟩
      rw [hg, List.all_cons, Bool.and_eq_true] at hall
      exact hall.1
    · obtain rfl := List.mem_singleton.mp hmem
      obtain rfl : c = .productionsKeyword := hm
      rfl
  have hlaid := h.laid
  rw [hg] at hlaid ⊢
  rw [Goal.welcomes_append (Goal.isIdle_of_laid hlaid hc h.idle (some t)),
    Goal.welcomes_cons_of_isIdle rfl]
  rw [hbracketed.stack] at hk
  refine Goal.welcomes_of_legal (Goal.laid_of_append hlaid) hc hk ht ?_
  -- Factors right behind the start of an expression mean that a condition came before it.
  rintro hk' rfl hhead
  refine hresolver hk' rfl (harranged.condition ?_)
  obtain ⟨gs', rfl⟩ := List.head?_eq_some_iff.mp hhead
  rw [hg]
  rfl

/-- What is offered before a name is taken is welcome to the goals before it. -/
theorem Replays.welcomes_of_before? {c : Checkpoint} {x : Lexeme} {rest : List Lexeme}
    {top : Option Brace} (h : Replays lexemes read dropped s) (hg : s.goals = g :: gs)
    (hrest : s.rest = x :: rest) (hm : (g.move x.token).before? = some c)
    (hk : (ConstructSet.legal (some c) top).contains k = true) (ht : t ∈ k.standIns) :
    Goal.welcomes (some t) (dropped ++ s.goals) = true := by
  have hk : k ∈ c.follow := by
    rcases ConstructSet.contains_legal.mp hk with hk | ⟨hin, -⟩
    · exact hk
    · rcases Goal.before?_cases hm with ⟨-, -, rfl⟩ | ⟨-, -, rfl⟩ | ⟨-, rfl⟩ | ⟨-, rfl⟩ | rfl <;>
        cases hin
  obtain ⟨hla, hsymbol, hwelcome⟩ := Goal.welcomes_of_before? gs hm hk ht
  rw [hg, Goal.welcomes_append]
  · exact hwelcome
  · intro g hg
    have hidle := h.idle g hg
    rw [show s.lookahead = some (some .ident) by simp [lookahead, hrest, hla]] at hidle
    exact Goal.isIdle_of_isSymbol hidle hsymbol

/-- **What is offered at a notification is welcome to the goals before it.** -/
theorem Reaches.welcomes {stop : Position} (h : Reaches (start lexemes stop) heard s)
    (hnil : s.diagnostics = []) (hreplays : Replays lexemes read dropped s) (hg : s.goals = g :: gs)
    (hturn : Turn s g gs (some n) s')
    (hproductions : ∃ m ∈ heard ++ [n], m.checkpoint = .productionsKeyword)
    (hk : (ConstructSet.legal (some n.checkpoint) (BraceStack.after (heard ++ [n])).top).contains k
      = true)
    (hresolver : k = .resolver → n.checkpoint = .expressionStart →
      heard.getLast?.map Notification.checkpoint ≠ some .resolverCondition)
    (ht : k.standsFor t = true) : Goal.welcomes (some t) (dropped ++ s.goals) = true := by
  have ht := Construct.mem_standIns ht
  obtain ⟨c, rfl, hm | ⟨x, rest, hrest, hm⟩⟩ := hturn.some_cases
  · obtain rfl := Goal.eq_announce_of_tell hm
    exact hreplays.welcomes_of_tell (h.arranged hnil) ((h.bracketed hnil).cleanTurn hg (.tell c hm))
      hg hproductions hk hresolver ht
  · exact hreplays.welcomes_of_before? hg hrest hm hk ht

end Parsing

/-- What has been read of a source when its lexeme number `p` is next. -/
theorem Lexeme.take_scan {source : Text} {read rest : List Lexeme} {p : Nat}
    (h : scan source = read ++ rest) (hp : (scan source)[p]? = rest.head?) :
    (scan source).take p = read := by
  -- Lexemes of a source differ in their positions, so that each stands at one place only.
  have hnodup : (scan source).Nodup := by
    refine (pairwise_scan source).imp ?_
    rintro y _ hlt rfl
    exact Position.lt_irrefl _ hlt
  cases rest with
  | nil =>
    have hle : (scan source).length ≤ p := List.getElem?_eq_none_iff.mp hp
    rw [List.take_of_length_le hle, h, List.append_nil]
  | cons y rest =>
    have hget : (scan source)[read.length]? = some y := by simp [h]
    obtain ⟨hlt, -⟩ := List.getElem?_eq_some_iff.mp hp
    have hindex : p = read.length := (List.getElem?_inj hlt hnodup).mp (hp.trans hget.symm)
    simp [h, hindex]

/-- **Everything that is offered from the productions on is accepted next.** Take any notification
without an error before it, and any construct that is legal there with the brackets that are open.
If the source ended before the next lexeme, and a lexeme that the construct stands for came last,
every error would be at the end of the source and none at that lexeme. Excepted is a second resolver
after the condition of one. -/
theorem ParseResult.position_eq_of_legal (source : Text) {earlier later : List Notification}
    {n : Notification} (hn : (ofSource source).notifications = earlier ++ n :: later)
    (hproductions : ∃ m ∈ earlier ++ [n], m.checkpoint = .productionsKeyword)
    (hclean : n.errorCount = 0) {p : Nat} (hp : (Lexeme.scan source)[p]? = n.lookahead)
    {k : Construct}
    (hk : (ConstructSet.legal (some n.checkpoint)
      (BraceStack.after (earlier ++ [n])).top).contains k = true)
    (hresolver : k = .resolver → n.checkpoint = .expressionStart →
      earlier.getLast?.map Notification.checkpoint ≠ some .resolverCondition)
    {x : Lexeme} {t : Token} (hx : x.token = some t) (ht : k.standsFor t = true) (stop : Position) :
    ∀ d ∈ (ofLexemes ((Lexeme.scan source).take p ++ [x]) stop).diagnostics, d.position = stop := by
  have hrun := Parsing.reaches_run
    (.start (Lexeme.scan source) ((LineIndex.ofText source).position source.size))
  rw [show (Parsing.run _).1 = earlier ++ n :: later from hn] at hrun
  -- The state that gave the notification had no error, and neither has anything before it.
  obtain ⟨s, g, gs, s', hs, hg, hturn, -⟩ := hrun.split
  obtain ⟨c, hnotice, -⟩ := hturn.some_cases
  have hnil : s.diagnostics = [] := by
    rw [hnotice] at hclean
    exact List.length_eq_zero_iff.mp hclean
  obtain ⟨read, dropped, hreplays⟩ := hs.replays hnil
  have hhead : n.lookahead = s.rest.head? := by
    rw [hnotice]
    rfl
  have hwelcome :=
    hs.welcomes hnil hreplays hg hturn hproductions hk hresolver ht
  rw [Lexeme.take_scan hreplays.split (hp.trans hhead)]
  exact hreplays.position_eq_of_welcomes (by simp [hx]) (by rwa [hx]) stop

/-- A group that the wrong bracket closes: a parenthesis is open before it, and the right one is
accepted there. -/
theorem ParseResult.position_eq_of_legal_group :
    (BraceStack.after ((ofSource "COMPILER A PRODUCTIONS A=(b].END A.".toList).notifications.take
      11)).top = some .paren ∧
    ∀ d ∈ (ofLexemes ((Lexeme.scan "COMPILER A PRODUCTIONS A=(b].END A.".toList).take 7 ++
      [⟨some .rightParen, 27, [')'], ⟨1, 28⟩⟩]) ⟨1, 29⟩).diagnostics, d.position = ⟨1, 29⟩ := by
  have hn : (ofSource "COMPILER A PRODUCTIONS A=(b].END A.".toList).notifications =
      (ofSource "COMPILER A PRODUCTIONS A=(b].END A.".toList).notifications.take 10 ++
        ⟨.afterSymbol, some ⟨some .rightBracket, 27, [']'], ⟨1, 28⟩⟩, ⟨1, 27⟩, 0, none⟩ ::
          (ofSource "COMPILER A PRODUCTIONS A=(b].END A.".toList).notifications.drop 11 := by
    decide +kernel
  refine ⟨by decide +kernel, ?_⟩
  exact position_eq_of_legal _ hn (k := .rightParen) (by decide +kernel) rfl (by decide +kernel)
    (by decide +kernel) nofun rfl rfl _

-- A resolver is offered after the condition of a resolver, and is an error there.
example : (ParseResult.ofSource "COMPILER A PRODUCTIONS A=IF(c)IF".toList).diagnostics.map
    Diagnostic.position = [⟨1, 31⟩] := by
  decide +kernel

end GrammarWorkbench
