import GrammarWorkbench.Proofs.Completion.Candidates
import GrammarWorkbench.Proofs.Lexeme.Alone
import GrammarWorkbench.Proofs.Symbols.Occurrences

/-!
# Which names are identifiers

Outside the declarations of tokens only identifiers name something. Where a name is announced
together with the move that takes it, the move has looked at its token before
(`GrammarWorkbench.Goal.ident_of_before?`). The two names of a grammar are announced by goals of
their own, **before** the token is looked at, so that a literal in their place is collected as well.
It is the last name that is: no identifier stands there, which is the first error
(`GrammarWorkbench.ParseResult.misplaced_of_mem_clean`).

So a misplaced literal may be the name of a grammar, or be used, and then it is offered as the name
of a new production. It is never offered as the name of a grammar: that is legal after the last
keyword of a grammar only, and before the name of the grammar nothing is announced but its beginning
(`GrammarWorkbench.ParseResult.checkpoint_of_before_grammarName`).
-/

namespace GrammarWorkbench

/-! ### Names of lexemes -/

/-- **The well-formed names** that are no keywords. -/
structure Text.IsIdentifier (name : Text) : Prop where
  word : ∃ c t, name = c :: t ∧ startsWord c = true ∧ ∀ d ∈ t, isWord d = true
  notKeyword : ∀ kind : Token, kind.isKeyword = true → kind.spelling? ≠ some name

/-- **The name of an identifier** of a source. -/
def Text.IsIdentOf (source name : Text) : Prop :=
  ∃ x ∈ Lexeme.scan source, x.token = some .ident ∧ x.text = name

/-- **A misplaced literal** of a source: the first error is that a name should stand there. -/
def Text.IsMisplacedIn (source name : Text) : Prop :=
  ∃ x ∈ Lexeme.scan source, (x.token = some .string ∨ x.token = some .char) ∧ x.text = name ∧
    (ParseResult.ofSource source).diagnostics.head? =
      some ⟨x.position, (SyntaxError.expected .ident).message⟩

theorem Text.IsIdentOf.isIdentifier {source name : Text} (h : IsIdentOf source name) :
    name.IsIdentifier := by
  obtain ⟨x, hx, hident, rfl⟩ := h
  obtain ⟨pre, c, u, more, -, hfirst, -, htext, -⟩ :=
    Lexeme.exists_first (List.mem_filter.mp hx).1
  rw [Lexeme.shape_eq_token_iff.mpr hident] at hfirst
  obtain ⟨hc, hmore, hword⟩ := Shape.first_eq_ident hfirst
  refine ⟨⟨c, u.take more, htext, hc, ?_⟩, ?_⟩
  · rw [hmore]
    exact fun d hd => Shape.of_mem_take_run hd
  · rw [htext]
    exact fun kind => Token.spelling?_ne_of_ofWord hword

/-! ### What is announced before a name -/

namespace Goal

variable {g : Goal} {gs : List Goal} {t : Option Token} {c : Checkpoint}

/-- **What is announced together with the move that takes it** is an identifier, or the name of a
token. -/
theorem ident_of_before? (h : (g.move t).before? = some c) (hc : c ≠ .tokenName) :
    t = some .ident := by
  rcases before?_cases h with ⟨-, ht, -⟩ | ⟨-, ht, -⟩ | ⟨ht, -⟩ | ⟨ht, -⟩ | rfl
  · exact ht
  · exact ht
  · exact ht
  · exact ht
  · exact absurd rfl hc

/-- **What is announced on its own** is looked at next: an identifier is asked for. -/
theorem exists_of_awaited? {naming : Naming} (h : Joined gs)
    (hawaited : awaited? gs = some naming) :
    (naming = .declaration .grammar ∨ naming = .reference) ∧
      ∃ g' gs', gs = g' :: gs' ∧ (g' = request .ident ∨ g' = require .ident) := by
  unfold awaited? at hawaited
  split at hawaited
  next kind gs' =>
    obtain rfl : kind = .ident := h.1.1
    exact ⟨Or.inl (Option.some.inj hawaited).symm, _, gs', rfl, Or.inl rfl⟩
  next gs' => exact ⟨Or.inr (Option.some.inj hawaited).symm, _, gs', rfl, Or.inr rfl⟩
  next => cases hawaited

end Goal

namespace Parsing

variable {s s' : Parsing} {g : Goal} {gs : List Goal} {n : Option Notification} {c : Checkpoint}
  {heard : List Notification} {lexemes : List Lexeme} {stop : Position} {x : Lexeme}

/-- As long as there is no error, the next one will be recorded. -/
theorem Reaches.fresh (h : Reaches (start lexemes stop) heard s) (hnil : s.diagnostics = []) :
    s.Fresh := by
  refine h.cleanInvariant (P := fun _ s => s.Fresh) ⟨rfl, Nat.le_refl _⟩ ?_ hnil
  rintro heard s g gs - hfresh n s' ht
  cases ht with
  | pass | tell => exact hfresh
  | take x rest | skip x rest => exact hfresh.consume x rest

/-- An announcement drops its goal. -/
theorem Turn.eq_of_announce (h : Turn s (.announce c) gs n s') : s' = { s with goals := gs } := by
  have hmeet : Goal.meet (.announce c) s.lookahead = .still (.tell c) := by
    cases s.lookahead <;> rfl
  cases h with
  | pass | tell => rfl
  | note e hm | fail e hm => cases hmeet.symm.trans hm
  | take x rest before next hrest hm | skip x rest next hrest hm => cases hm
  | spoil before e next hm => cases hmeet.symm.trans hm

theorem CleanTurn.eq_of_announce (h : CleanTurn s (.announce c) gs n s') :
    n = some (s.notice c) ∧ s' = { s with goals := gs } := by
  cases h with
  | pass hm => exact absurd rfl (Goal.ne_announce_of_pass hm c)
  | tell c' hm =>
    obtain rfl := Goal.announce.inj (Goal.eq_announce_of_tell hm)
    exact ⟨rfl, rfl⟩
  | take x rest before next hrest hm | skip x rest next hrest hm => cases hm

/-- **Where an identifier is asked for and something else stands**, the error is the first one, and
nothing is announced with it. -/
theorem Fresh.step_misplaced (h : s.Fresh) (hrest : s.rest.head? = some x)
    (hx : x.token ≠ some .ident) (hg : g = .request .ident ∨ g = .require .ident)
    (gs : List Goal) : (s.step g gs).1 = none ∧
      (s.step g gs).2.diagnostics = [⟨x.position, (SyntaxError.expected .ident).message⟩] := by
  obtain ⟨rest, hrest⟩ := List.head?_eq_some_iff.mp hrest
  have hplace : s.lookaheadPosition = x.position := by rw [lookaheadPosition, hrest]
  have hreport : (s.report (.expected .ident)).diagnostics =
      [⟨x.position, (SyntaxError.expected .ident).message⟩] := by
    rw [report_diagnostics_of_le h.2, h.1, hplace]
    rfl
  have hlook : s.lookahead = some x.token := by rw [lookahead, hrest]; rfl
  rcases hg with rfl | rfl <;> rw [step, hlook] <;>
    simp only [Goal.meet_some, Goal.move, if_neg hx] <;> exact ⟨rfl, hreport⟩

/-- **The beginning of a grammar**: up to its name, the goals are those of the whole grammar, and
nothing but the beginning has been announced. Later no grammar is declared. -/
def Opening (heard : List Notification) (s : Parsing) : Prop :=
  (∃ k ≤ 4, s.goals = Goal.grammar.drop k ∧
    ∀ n ∈ heard, n.checkpoint = .start ∨ n.checkpoint = .beforeCompiler) ∨
  DeclarationKind.grammar ∉ Goal.kinds s.goals

theorem opening_start (lexemes : List Lexeme) (stop : Position) : Opening [] (start lexemes stop) :=
  Or.inl ⟨0, Nat.zero_le _, rfl, fun _ hn => absurd hn List.not_mem_nil⟩

/-- A goal that can declare no grammar leaves none that can. -/
theorem grammar_notMem_kinds_next (h : DeclarationKind.grammar ∉ Goal.kinds (g :: gs))
    (t : Option Token) : DeclarationKind.grammar ∉ Goal.kinds ((g.move t).next ++ gs) := by
  rw [Goal.kinds_cons] at h
  rw [Goal.kinds_append]
  intro hmem
  refine h ?_
  rcases List.mem_append.mp hmem with hmem | hmem
  · exact List.mem_append_left _ ((Goal.sublist_next_move g t).subset hmem)
  · exact List.mem_append_right _ hmem

/-- One clean turn keeps a parse at the beginning, or leads behind it. -/
theorem Opening.cleanTurn (h : Opening heard s) (hg : s.goals = g :: gs)
    (ht : CleanTurn s g gs n s') : Opening (heard ++ n.toList) s' := by
  rcases h with ⟨k, hk, hgoals, hheard⟩ | hnone
  · -- The goals of a grammar are met one after the other.
    rw [hg] at hgoals
    have htold (c : Checkpoint) (hc : c = .start ∨ c = .beforeCompiler) :
        ∀ m ∈ heard ++ (some (s.notice c)).toList,
          m.checkpoint = .start ∨ m.checkpoint = .beforeCompiler := by
      intro m hm
      rcases List.mem_append.mp hm with hm | hm
      · exact hheard m hm
      · obtain rfl := List.mem_singleton.mp hm
        exact hc
    have hstep : k = 0 ∨ k = 1 ∨ k = 2 ∨ k = 3 ∨ k = 4 := by omega
    rcases hstep with rfl | rfl | rfl | rfl | rfl <;> obtain ⟨rfl, rfl⟩ := List.cons.inj hgoals
    · obtain ⟨rfl, rfl⟩ := ht.eq_of_announce
      exact Or.inl ⟨1, by decide, rfl, htold .start (Or.inl rfl)⟩
    · cases ht with
      | pass => exact Or.inl ⟨2, by decide, rfl, by simpa using hheard⟩
      | tell c hm => cases Goal.eq_announce_of_tell hm
      | take x rest before next hrest hm =>
        simp only [Goal.move] at hm
        split at hm <;> cases hm
      | skip x rest next hrest hm =>
        simp only [Goal.move] at hm
        split at hm <;> cases hm
        exact Or.inl ⟨1, by decide, rfl, by simpa using hheard⟩
    · obtain ⟨rfl, rfl⟩ := ht.eq_of_announce
      exact Or.inl ⟨3, by decide, rfl, htold .beforeCompiler (Or.inr rfl)⟩
    · cases ht with
      | pass hm =>
        cases hla : s.lookahead <;> rw [hla] at hm <;> simp only [Goal.meet, Goal.move] at hm
        · cases hm
        · split at hm <;> cases hm
      | tell c hm => cases Goal.eq_announce_of_tell hm
      | take x rest before next hrest hm =>
        simp only [Goal.move] at hm
        split at hm <;> cases hm
        exact Or.inl ⟨4, by decide, rfl, by simpa using hheard⟩
      | skip x rest next hrest hm =>
        simp only [Goal.move] at hm
        split at hm <;> cases hm
    · obtain ⟨-, rfl⟩ := ht.eq_of_announce
      have hnone : DeclarationKind.grammar ∉ Goal.kinds (Goal.grammar.drop 5) := by decide
      exact Or.inr hnone
  · right
    rw [hg] at hnone
    cases ht with
    | pass | tell =>
      intro hmem
      rw [Goal.kinds_cons] at hnone
      exact hnone (List.mem_append_right _ hmem)
    | take x rest before next hrest hm | skip x rest next hrest hm =>
      have hkinds := grammar_notMem_kinds_next hnone x.token
      rwa [hm] at hkinds

theorem Reaches.opening (h : Reaches (start lexemes stop) heard s) (hnil : s.diagnostics = []) :
    Opening heard s :=
  h.cleanInvariant (opening_start lexemes stop)
    (fun _ _ _ _ hg hP _ _ ht => hP.cleanTurn hg ht) hnil

end Parsing

/-! ### The names of notifications -/

theorem Checkpoint.eq_grammarName {c : Checkpoint} (h : c.declaration? = some .grammar) :
    c = .grammarName := by
  cases c <;> first | rfl | cases h

namespace ParseResult

open Parsing

variable {source : Text} {before after : List Notification} {n : Notification} {x : Lexeme}
  {naming : Naming}

/-- **Before the name of a grammar** only its beginning is announced. -/
theorem checkpoint_of_before_grammarName (h : (ofSource source).clean = before ++ n :: after)
    (hn : n.checkpoint.declaration? = some .grammar) :
    ∀ m ∈ before, m.checkpoint = .start ∨ m.checkpoint = .beforeCompiler := by
  obtain ⟨s, g, gs, s', hreaches, hg, hturn, hnil⟩ := exists_state_of_clean h
  obtain ⟨c, rfl, hm | ⟨x, rest, -, hm⟩⟩ := hturn.some_cases
  · rcases hreaches.opening hnil with ⟨-, -, -, hbefore⟩ | hnone
    · exact hbefore
    · -- The name of the grammar is declared by this very goal.
      obtain rfl := Goal.eq_announce_of_tell hm
      have hkind : (Goal.announce c).declares? = some .grammar := hn
      rw [hg, Goal.kinds_cons, hkind] at hnone
      exact absurd List.mem_cons_self hnone
  · exact absurd rfl (Goal.declares?_of_before? hm hn).2

/-- **A name that is no identifier**, and not declared as a token, is misplaced: it is the last one
before the first error, which is that an identifier should stand in its place. -/
theorem misplaced_of_mem_clean (h : (ofSource source).clean = before ++ n :: after)
    (hn : n.checkpoint.naming? = some naming) (htoken : naming ≠ .declaration .token)
    (hx : n.lookahead = some x) (hident : x.token ≠ some .ident) :
    after = [] ∧ (naming = .declaration .grammar ∨ naming = .reference) ∧
      (ofSource source).diagnostics.head? =
        some ⟨x.position, (SyntaxError.expected .ident).message⟩ := by
  obtain ⟨s, g, gs, s', late, last, hreaches, hg, hturn, hnil, hrest, hend, hdiagnostics⟩ :=
    exists_way_of_clean h
  obtain ⟨c, rfl, hm | ⟨y, rest, hrest', hm⟩⟩ := hturn.some_cases
  · -- The goals after the announcement ask for an identifier, and find none.
    obtain rfl := Goal.eq_announce_of_tell hm
    obtain rfl := hturn.eq_of_announce
    obtain ⟨read, _, htold⟩ := hreaches.told hnil
    have hjoined := htold.joined
    rw [hg] at hjoined
    obtain ⟨hnaming, g', gs', rfl, hg'⟩ :=
      Goal.exists_of_awaited? hjoined.2 (hjoined.1.1.trans hn)
    have hfresh : Fresh { s with goals := g' :: gs' } := hreaches.fresh hnil
    obtain ⟨hquiet, herror⟩ := hfresh.step_misplaced hx hident hg' gs'
    generalize hout : after ++ late = out at hrest
    cases hrest with
    | refl => cases hend
    | @step _ _ g'' gs'' out hgoals hrest =>
      obtain ⟨rfl, rfl⟩ := List.cons.inj hgoals
      rw [hquiet, Option.toList_none, List.nil_append] at hout
      have hcounts := hrest.errorCount_ne_zero (by rw [herror]; exact List.cons_ne_nil _ _)
      obtain ⟨more, hmore⟩ := hrest.isPrefix_diagnostics
      refine ⟨?_, hnaming, ?_⟩
      · -- What is announced later knows of the error.
        refine List.eq_nil_iff_forall_not_mem.mpr fun m hm => ?_
        have hclean : m ∈ (ofSource source).clean := by simp [h, hm]
        have hzero : m.errorCount = 0 := by simpa using (List.mem_filter.mp hclean).2
        exact hcounts m (hout ▸ List.mem_append_left _ hm) hzero
      · rw [← hdiagnostics, ← hmore, herror]
        rfl
  · -- The move that takes the name has looked at its token.
    obtain rfl : y = x := by
      have hhead : s.rest.head? = some x := hx
      rw [hrest'] at hhead
      exact Option.some.inj hhead
    refine absurd (Goal.ident_of_before? hm ?_) hident
    rintro rfl
    exact htoken (Option.some.inj hn).symm

/-- **A collected name** that is not declared as a token is the name of an identifier, or else the
last one, and the misplaced name of a grammar. -/
theorem isIdentOf_or_misplaced (hmem : n ∈ (ofSource source).clean)
    (hn : n.checkpoint.naming? = some naming) (htoken : naming ≠ .declaration .token) {e : Symbol}
    {context : Option Text} (he : n.symbol? context = some e) :
    source.IsIdentOf e.name ∨
      (naming = .declaration .grammar ∨ naming = .reference) ∧ source.IsMisplacedIn e.name ∧
        ∃ before, (ofSource source).clean = before ++ [n] := by
  obtain ⟨x, hx, hname, hne, -⟩ := Notification.exists_of_symbol? he
  obtain ⟨read, rest, hscan, -⟩ := exists_read_of_mem_clean hmem hx
  have hxmem : x ∈ Lexeme.scan source := by simp [hscan]
  have hsymbol : x.token.any Token.isSymbol = true := by
    by_contra hnot
    exact hne (by rw [hname, Lexeme.symbolName, if_neg hnot])
  have htext : x.text = e.name := by rw [hname, Lexeme.symbolName, if_pos hsymbol]
  by_cases hident : x.token = some .ident
  · exact Or.inl ⟨x, hxmem, hident, htext⟩
  · obtain ⟨before, after, hclean⟩ := List.append_of_mem hmem
    obtain ⟨rfl, hnaming, herror⟩ := misplaced_of_mem_clean hclean hn htoken hx hident
    have hliteral : x.token = some .string ∨ x.token = some .char := by
      revert hsymbol hident
      cases x.token with
      | none => intro h; cases h
      | some kind => cases kind <;> decide
    exact Or.inr ⟨hnaming, ⟨x, hxmem, hliteral, htext, herror⟩, before, hclean⟩

theorem isIdentOf_of_mem_declared {kind : DeclarationKind} {e : Symbol}
    (h : e ∈ Notification.declared kind (ofSource source).clean) (htoken : kind ≠ .token) :
    source.IsIdentOf e.name ∨ kind = .grammar ∧ source.IsMisplacedIn e.name := by
  obtain ⟨n, hmem, hkind, context, he⟩ := Notification.exists_of_mem_declared h
  have hnaming : n.checkpoint.naming? = some (.declaration kind) := by
    rw [Checkpoint.naming?, hkind]
  refine (isIdentOf_or_misplaced hmem hnaming (mt Naming.declaration.inj htoken) he).imp_right ?_
  rintro ⟨hgrammar | href, hmisplaced, -⟩
  · exact ⟨Naming.declaration.inj hgrammar, hmisplaced⟩
  · cases href

theorem isIdentOf_of_mem_uses {e : Symbol} (h : e ∈ Notification.uses (ofSource source).clean) :
    source.IsIdentOf e.name ∨ source.IsMisplacedIn e.name := by
  obtain ⟨n, hmem, href, context, he⟩ := Notification.exists_of_mem_uses h
  have hnaming : n.checkpoint.naming? = some .reference := by
    cases hkind : n.checkpoint.declaration? with
    | none => rw [Checkpoint.naming?, hkind, href]; rfl
    | some kind => cases (Notification.isReference_of_declaration? hkind).symm.trans href
  exact (isIdentOf_or_misplaced hmem hnaming (by decide) he).imp_right fun h => h.2.1

/-- **After the last keyword of a grammar**, its name is an identifier. -/
theorem isIdentOf_grammarName {e : Symbol}
    (h : (Notification.declared .grammar (ofSource source).clean).getLast? = some e)
    {m : Notification} (hm : m ∈ (ofSource source).clean)
    (hfollow : Construct.grammarName ∈ m.checkpoint.follow) : source.IsIdentOf e.name := by
  obtain ⟨n, hmem, hkind, context, he⟩ :=
    Notification.exists_of_mem_declared (List.mem_of_getLast? h)
  have hnaming : n.checkpoint.naming? = some (.declaration .grammar) := by
    rw [Checkpoint.naming?, hkind]
  refine (isIdentOf_or_misplaced hmem hnaming (by decide) he).resolve_right ?_
  -- A misplaced name would be the last notification, and none before it offers the name.
  rintro ⟨-, -, before, hclean⟩
  rw [hclean] at hm
  rcases List.mem_append.mp hm with hm | hm
  · rcases checkpoint_of_before_grammarName hclean hkind m hm with hstart | hstart <;>
      rw [hstart] at hfollow <;> exact absurd hfollow (by decide)
  · obtain rfl := List.mem_singleton.mp hm
    rw [Checkpoint.eq_grammarName hkind] at hfollow
    cases hfollow

end ParseResult

/-! ### The candidates of names -/

namespace Candidate

variable {s : Snapshot} {options : CompletionOptions} {k : Construct} {x : Candidate}

theorem of_module (h : x ∈ ofConstruct s options k) (hkind : x.kind = .module) :
    k = .grammarName ∧ ∃ e, s.grammarName = some e ∧ x.label = e.name := by
  rw [mem_ofConstruct_iff] at h
  cases h with
  | grammar hx => exact ⟨rfl, _, hx, rfl⟩
  | keyword | charSet | token | production | undeclared => cases hkind

theorem of_undeclared (h : x ∈ ofConstruct s options k)
    (hdetail : x.detail = some "undeclared production".toList) : x.label ∈ s.undeclared := by
  -- No construct is described in these words.
  have hdescription (c : Construct) : c.description ≠ "undeclared production".toList := by
    cases c <;> exact mt String.toList_inj.mp (by decide)
  rw [mem_ofConstruct_iff] at h
  cases h with
  | undeclared _ hused hnew => exact mem_undeclared_iff.mpr ⟨hused, hnew⟩
  | keyword =>
    dsimp only at hdetail
    split at hdetail
    · exact absurd (Option.some.inj hdetail) (hdescription _)
    · cases hdetail
  | charSet | token | production | grammar =>
    exact absurd (Option.some.inj hdetail) (by decide)

end Candidate

/-! ### The names of an answer -/

/-- Where the name of a grammar is legal, it follows a notification before the cursor. -/
theorem Tracker.exists_follow_of_legal {t : Tracker} {ns : List Notification}
    {cursor : Option Position}
    (hlast : t.last = none ∨
      t.last = (Notification.beforeCursor cursor ns).getLast?.map Notification.checkpoint)
    (h : t.legal.contains .grammarName = true) :
    ∃ m ∈ ns, Construct.grammarName ∈ m.checkpoint.follow := by
  rw [legal] at h
  cases hc : t.last with
  | none =>
    rw [hc, ConstructSet.legal, ConstructSet.contains_empty] at h
    cases h
  | some c =>
    rw [hc] at h hlast
    have hlast := hlast.resolve_left (Option.some_ne_none c)
    obtain ⟨m, hm, rfl⟩ := Option.map_eq_some_iff.mp hlast.symm
    refine ⟨m, (List.mem_filter.mp (List.mem_of_getLast? hm)).1, ?_⟩
    rcases ConstructSet.contains_legal.mp h with hfollow | ⟨-, hclosing⟩
    · exact hfollow
    · obtain ⟨kind, -, hkind⟩ := Option.map_eq_some_iff.mp hclosing
      cases kind <;> cases hkind

namespace Session

/-- **Only identifiers and misplaced literals are collected outside the declarations of tokens.**
For every source and every cursor, the names of character sets and of productions are identifiers of
the source. The name of the grammar and the names that are used are identifiers too, or else the
literal that stands in the place of one, which is the first error of the source. Every candidate for
the name of the grammar is a well-formed name and no keyword. So is every undeclared name that is
offered for a new production, unless it is that misplaced literal. -/
theorem identifiers_of_serve (session : Session) (source : Text) (cursor : Option Position)
    (options : CompletionOptions) :
    let answer := (session.serve source cursor).1
    let candidates := Candidate.ofSnapshot answer options
    (∀ e ∈ answer.charSets ++ answer.productions, source.IsIdentOf e.name) ∧
      (∀ e ∈ answer.grammarName, source.IsIdentOf e.name ∨ source.IsMisplacedIn e.name) ∧
      (∀ name ∈ answer.references.names, source.IsIdentOf name ∨ source.IsMisplacedIn name) ∧
      (∀ x ∈ candidates, x.kind = .module → source.IsIdentOf x.label ∧ x.label.IsIdentifier) ∧
      ∀ x ∈ candidates, x.detail = some "undeclared production".toList →
        source.IsIdentOf x.label ∧ x.label.IsIdentifier ∨ source.IsMisplacedIn x.label := by
  intro answer candidates
  obtain ⟨t, hcollected, hlast, (hanswer : answer = _)⟩ :=
    session.exists_collected_serve source cursor
  have hnames : ∀ name ∈ answer.references.names,
      source.IsIdentOf name ∨ source.IsMisplacedIn name := by
    intro name hname
    rw [hanswer] at hname
    obtain ⟨use, huse, rfl⟩ := (hcollected.names name).mp hname
    exact ParseResult.isIdentOf_of_mem_uses huse
  refine ⟨?_, ?_, hnames, ?_, ?_⟩
  · intro e he
    rw [hanswer] at he
    rcases List.mem_append.mp he with he | he
    · have he : e ∈ t.charSets := he
      rw [hcollected.charSets] at he
      exact (ParseResult.isIdentOf_of_mem_declared he (by decide)).resolve_right
        fun h => DeclarationKind.noConfusion h.1
    · have he : e ∈ t.productions := he
      rw [hcollected.productions] at he
      exact (ParseResult.isIdentOf_of_mem_declared he (by decide)).resolve_right
        fun h => DeclarationKind.noConfusion h.1
  · intro e he
    rw [hanswer] at he
    have he : e ∈ t.grammarName := he
    rw [hcollected.grammarName] at he
    exact (ParseResult.isIdentOf_of_mem_declared (List.mem_of_getLast? he) (by decide)).imp_right
      And.right
  · intro x hx hkind
    obtain ⟨k, hlegal, hk⟩ := Candidate.exists_construct hx
    obtain ⟨rfl, e, he, hlabel⟩ := Candidate.of_module hk hkind
    rw [hanswer] at hlegal he
    obtain ⟨m, hm, hfollow⟩ := Tracker.exists_follow_of_legal hlast hlegal
    have hident : source.IsIdentOf e.name :=
      ParseResult.isIdentOf_grammarName (hcollected.grammarName ▸ he) hm hfollow
    rw [hlabel]
    exact ⟨hident, hident.isIdentifier⟩
  · intro x hx hdetail
    obtain ⟨k, -, hk⟩ := Candidate.exists_construct hx
    have hname : x.label ∈ answer.undeclared := Candidate.of_undeclared hk hdetail
    exact (hnames x.label (List.mem_filter.mp hname).1).imp_left
      fun hident => ⟨hident, hident.isIdentifier⟩

/-- The literal that ends a grammar by mistake is collected, and offered for a new production. -/
theorem literal_offered_after_end :
    let source : Text := "COMPILER A PRODUCTIONS X = \"a\" . END \"b\" .".toList
    let answer := (serve {} source (some ⟨1, 24⟩)).1
    "\"b\"".toList ∈ answer.references.names ∧
      ⟨"\"b\"".toList, some "undeclared production".toList, .function, none⟩ ∈
        Candidate.ofSnapshot answer {} ∧
      ¬ source.IsIdentOf "\"b\"".toList ∧ ¬ Text.IsIdentifier "\"b\"".toList := by
  have hnot : ¬ Text.IsIdentifier "\"b\"".toList := by
    rintro ⟨⟨c, t, hname, hc, -⟩, -⟩
    obtain ⟨rfl, -⟩ := List.cons.inj hname
    exact absurd hc (by decide)
  exact ⟨by decide +kernel, by decide +kernel, fun h => hnot h.isIdentifier, hnot⟩

end Session

end GrammarWorkbench
