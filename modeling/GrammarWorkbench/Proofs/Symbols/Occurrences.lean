import GrammarWorkbench.Proofs.Lexeme.Edges
import GrammarWorkbench.Proofs.Parse.Spacing
import GrammarWorkbench.Proofs.Symbols.Collection

/-!
# Where symbols are found

The symbols of any source, with or without errors, are found at lexemes: each of them is the next
lexeme of some notification before the first error
(`GrammarWorkbench.Session.exists_notification_of_mem`), and the uses of a name stand in the order
of the source (`GrammarWorkbench.Session.pairwise_get_references`).

Such a lexeme is **never a name right after a number**. The grammar has no place for numbers, so
that a number is consumed in host code only, and there a name after it is skipped and not announced
(`GrammarWorkbench.Goal.move_ident_of_consumes_number`).
-/

namespace GrammarWorkbench

/-! ### Numbers are host code -/

namespace Goal

variable {g : Goal} {gs next : List Goal} {t : Option Token}

/-- The goals other than a number. -/
def isNumberless : Goal → Bool
  | require .number | request .number => false
  | _ => true

theorem numberless_tokenFactorMove (t : Option Token) :
    (tokenFactorMove t).next.all isNumberless = true := by
  unfold tokenFactorMove
  split <;> rfl

theorem numberless_symbolMove (t : Option Token) :
    (symbolMove t).next.all isNumberless = true := by
  unfold symbolMove
  split <;> rfl

theorem numberless_factorMove (t : Option Token) :
    (factorMove t).next.all isNumberless = true := by
  unfold factorMove
  split
  case h_8 => exact numberless_symbolMove t
  all_goals rfl

theorem numberless_followedBy {m : Move} {more : List Goal} (h : m.next.all isNumberless = true)
    (hmore : more.all isNumberless = true) :
    (m.followedBy more).next.all isNumberless = true := by
  cases m with
  | still s => rfl
  | take before next | skip next | spoil before e next =>
    exact List.all_append.trans (Bool.and_eq_true_iff.mpr ⟨h, hmore⟩)

theorem numberless_optionMove {k : Token} (h : next.all isNumberless = true) :
    (optionMove k next t).next.all isNumberless = true := by
  unfold optionMove
  split
  · exact h
  · rfl

/-- **No move asks for a number.** -/
theorem numberless_next_move (g : Goal) (t : Option Token) :
    (g.move t).next.all isNumberless = true := by
  cases g with
  | tokenFactor => exact numberless_tokenFactorMove t
  | symbol => exact numberless_symbolMove t
  | tokenFactors =>
    simp only [move]
    split
    · exact numberless_followedBy (numberless_tokenFactorMove t) rfl
    · rfl
  | factors =>
    simp only [move]
    split
    · exact numberless_followedBy (numberless_factorMove t) rfl
    · rfl
  | tokensOption s => exact numberless_optionMove rfl
  | ignoreCaseOption | charactersOption | rangeOption | definitionOption | commentDeclarations
  | nestedOption | ignoreSets | contextOption | tokenAlternatives | resolverOption
  | alternatives => exact numberless_optionMove rfl
  | _ =>
    simp only [move, simpleSetMove, declarationMove, attributesMove, conditionMove]
    repeat' split
    all_goals rfl

/-- **A number is consumed in host code**, where a name is skipped. -/
theorem move_ident_of_consumes_number (hg : g.isNumberless = true)
    (hm : (g.move (some .number)).Consumes next) :
    next = [g] ∧ g.move (some .ident) = .skip [g] := by
  cases g with
  | preamble | globalCode | productionsOption | attributes | dottedAttributes | action | condition
  | recovery => exact ⟨(Move.consumes_skip.mp hm).symm, rfl⟩
  | require k | request k =>
    simp only [move] at hm
    split at hm
    next hk =>
      cases hk
      cases hg
    next => simp at hm
  | tokensOption s => cases s <;> exact absurd hm (Move.not_consumes_still _)
  | _ => exact absurd hm (Move.not_consumes_still _)

end Goal

namespace Parsing

variable {s s' : Parsing} {g : Goal} {gs : List Goal} {n : Option Notification}
  {read lexemes : List Lexeme} {stop : Position} {out : List Notification}

/-- **After a number, a name is skipped**, and no goal asks for a number. -/
structure SkipsNames (read : List Lexeme) (s : Parsing) : Prop where
  numberless : s.goals.all Goal.isNumberless = true
  skips : Lexeme.lastToken read = some .number → s.lookahead = some (some .ident) →
    ∃ g gs, s.goals = g :: gs ∧ g.move (some .ident) = .skip [g]

theorem skipsNames_start (lexemes : List Lexeme) (stop : Position) :
    SkipsNames [] (start lexemes stop) :=
  ⟨rfl, nofun⟩

/-- A goal that is dropped or announced does not skip a name. -/
theorem SkipsNames.stand (h : SkipsNames read s) (hg : s.goals = g :: gs) {m : Still}
    (hm : g.meet s.lookahead = .still m) : SkipsNames read { s with goals := gs } := by
  obtain ⟨hall, hskips⟩ := h
  rw [hg, List.all_cons, Bool.and_eq_true] at hall
  refine ⟨hall.2, ?_⟩
  intro hlast hident
  obtain ⟨g', gs', hg', hskip⟩ := hskips hlast hident
  have hident : s.lookahead = some (some .ident) := hident
  cases hg.symm.trans hg'
  rw [hident, Goal.meet_some, hskip] at hm
  cases hm

/-- A consumed number leaves a goal that skips a name. -/
theorem SkipsNames.consume (h : SkipsNames read s) (hg : s.goals = g :: gs) {x : Lexeme}
    {rest : List Lexeme} {next : List Goal} (hm : (g.move x.token).Consumes next) :
    SkipsNames (read ++ [x]) { s.consume x rest with goals := next ++ gs } := by
  have hall := h.numberless
  rw [hg, List.all_cons, Bool.and_eq_true] at hall
  refine ⟨?_, ?_⟩
  · have hnext : (g.move x.token).next = next := by
      rcases hm with ⟨before, hm⟩ | hm <;> rw [hm] <;> rfl
    rw [List.all_append, Bool.and_eq_true, ← hnext]
    exact ⟨Goal.numberless_next_move g x.token, hall.2⟩
  · rw [Lexeme.lastToken_concat]
    intro hnumber _
    rw [hnumber] at hm
    obtain ⟨rfl, hskip⟩ := Goal.move_ident_of_consumes_number hall.1 hm
    exact ⟨g, gs, rfl, hskip⟩

theorem SkipsNames.cleanTurn (h : SkipsNames read s) (hg : s.goals = g :: gs)
    (ht : CleanTurn s g gs n s') :
    ∃ read', read' ++ s'.rest = read ++ s.rest ∧ SkipsNames read' s' := by
  cases ht with
  | pass hm => exact ⟨read, rfl, h.stand hg hm⟩
  | tell c hm => exact ⟨read, rfl, h.stand hg hm⟩
  | take x rest before next hrest hm =>
    exact ⟨read ++ [x], by simp [hrest], h.consume hg (Or.inl ⟨before, hm⟩)⟩
  | skip x rest next hrest hm =>
    exact ⟨read ++ [x], by simp [hrest], h.consume hg (Or.inr hm)⟩

/-- **As long as there is no error, a name after a number is skipped.** -/
theorem Reaches.skipsNames (h : Reaches (start lexemes stop) out s) (hnil : s.diagnostics = []) :
    ∃ read, read ++ s.rest = lexemes ∧ SkipsNames read s := by
  refine h.cleanInvariant (P := fun _ s => ∃ read, read ++ s.rest = lexemes ∧ SkipsNames read s)
    ⟨[], rfl, skipsNames_start lexemes stop⟩ ?_ hnil
  rintro heard s g gs hg ⟨read, hread, hskips⟩ n s' ht
  obtain ⟨read', hread', hskips'⟩ := hskips.cleanTurn hg ht
  exact ⟨read', hread'.trans hread, hskips'⟩

/-- **No notice is given between a number and a name.** -/
theorem SkipsNames.lastToken_ne {k : Notification} (h : SkipsNames read s) (hg : s.goals = g :: gs)
    (ht : Turn s g gs (some k) s') (hident : s.lookahead = some (some .ident)) :
    Lexeme.lastToken read ≠ some .number := by
  intro hnumber
  obtain ⟨g', gs', hg', hskip⟩ := h.skips hnumber hident
  cases hg.symm.trans hg'
  obtain ⟨c, -, hm | ⟨x, rest, hrest, hm⟩⟩ := ht.some_cases
  · rw [hident, Goal.meet_some, hskip] at hm
    cases hm
  · have hx : x.token = some .ident := by simpa [lookahead, hrest] using hident
    rw [hx, hskip] at hm
    cases hm

/-- Before a notice is given, no name is left to be consumed. -/
theorem pendingName_of_turn {k : Notification} (hg : s.goals = g :: gs)
    (ht : Turn s g gs (some k) s') : s.pendingName = none := by
  have hawaited : Goal.awaited? (g :: gs) = none := by
    obtain ⟨c, -, hm | ⟨x, rest, -, hm⟩⟩ := ht.some_cases
    · rw [Goal.eq_announce_of_tell hm]
      rfl
    · cases g with
      | require k | request k =>
        simp only [Goal.move] at hm
        split at hm <;> cases hm
      | _ => rfl
  rw [pendingName, hg, hawaited]
  rfl

end Parsing

/-! ### The lexemes of notifications -/

namespace ParseResult

open Notification

variable {source : Text} {n : Notification} {x : Lexeme}

/-- **The way of the parse through a notification without an error.** -/
theorem exists_way_of_clean {before after : List Notification}
    (h : (ofSource source).clean = before ++ n :: after) :
    ∃ s g gs s' late last, Parsing.Reaches (.start (Lexeme.scan source)
        ((LineIndex.ofText source).position source.size)) before s ∧
      s.goals = g :: gs ∧ Parsing.Turn s g gs (some n) s' ∧ s.diagnostics = [] ∧
      Parsing.Reaches s' (after ++ late) last ∧ last.goals = [] ∧
      last.diagnostics = (ofSource source).diagnostics := by
  obtain ⟨late, hlate, -⟩ := exists_notifications_eq source
  have hout : (ofSource source).notifications = before ++ n :: (after ++ late) := by
    rw [hlate, h, List.append_assoc, List.cons_append]
  obtain ⟨s, g, gs, s', last, hreaches, hg, hturn, hrest⟩ := exists_way source hout
  refine ⟨s, g, gs, s', late, last, hreaches, hg, hturn, ?_, hrest⟩
  have hmem : n ∈ (ofSource source).clean := by simp [h]
  have hcount : n.errorCount = 0 := by simpa using (List.mem_filter.mp hmem).2
  obtain ⟨c, rfl, -⟩ := hturn.some_cases
  exact List.length_eq_zero_iff.mp hcount

/-- The state of the parse that gave a notification without an error. -/
theorem exists_state_of_clean {before after : List Notification}
    (h : (ofSource source).clean = before ++ n :: after) :
    ∃ s g gs s', Parsing.Reaches (.start (Lexeme.scan source)
        ((LineIndex.ofText source).position source.size)) before s ∧
      s.goals = g :: gs ∧ Parsing.Turn s g gs (some n) s' ∧ s.diagnostics = [] := by
  obtain ⟨s, g, gs, s', -, -, hreaches, hg, hturn, hnil, -⟩ := exists_way_of_clean h
  exact ⟨s, g, gs, s', hreaches, hg, hturn, hnil⟩

/-- **The next lexeme of a notification without an error** is no name right after a number. -/
theorem exists_read_of_mem_clean (hn : n ∈ (ofSource source).clean) (hx : n.lookahead = some x) :
    ∃ read rest, Lexeme.scan source = read ++ x :: rest ∧
      (x.token = some .ident → Lexeme.lastToken read ≠ some .number) := by
  obtain ⟨before, after, hclean⟩ := List.append_of_mem hn
  obtain ⟨s, g, gs, s', hreaches, hg, hturn, hnil⟩ := exists_state_of_clean hclean
  obtain ⟨read, hread, hskips⟩ := hreaches.skipsNames hnil
  obtain ⟨c, rfl, -⟩ := hturn.some_cases
  obtain ⟨rest, hrest⟩ := List.head?_eq_some_iff.mp (show s.rest.head? = some x from hx)
  refine ⟨read, rest, by rw [← hread, hrest], ?_⟩
  intro hident
  exact hskips.lastToken_ne hg hturn (by simp [Parsing.lookahead, hrest, hident])

/-- **The names of the notifications without an error stand in order.** -/
theorem increasing_named_clean (source : Text) :
    Naming.Increasing ((ofSource source).clean.filterMap named?) := by
  rcases List.eq_nil_or_concat (ofSource source).clean with hnil | ⟨before, n, hclean⟩
  · rw [hnil]
    exact List.Pairwise.nil
  rw [List.concat_eq_append] at hclean
  obtain ⟨s, g, gs, s', hreaches, hg, hturn, hnil⟩ := exists_state_of_clean hclean
  obtain ⟨read, hread, htold⟩ := hreaches.told hnil
  have hlexemes := Lexeme.pairwise_scan source
  rw [← hread] at hlexemes
  obtain ⟨hbefore, -, hafter⟩ := List.pairwise_append.mp hlexemes
  rw [hclean, ← Option.toList_some, List.filterMap_append_toList, htold.named,
    Parsing.pendingName_of_turn hg hturn, Option.toList_none, List.append_nil]
  -- The last notice names the next lexeme, if anything.
  refine List.pairwise_append.mpr ⟨Lexeme.pairwise_named hbefore, ?_, ?_⟩
  · cases (some n).bind named? <;> simp
  · intro p hp q hq
    obtain ⟨c, rfl, -⟩ := hturn.some_cases
    refine hafter _ (Lexeme.mem_of_mem_named hp).1 _ ?_
    have hnamed : (s.notice c).named? = some q := Option.mem_toList.mp hq
    obtain ⟨naming, -, hq⟩ := Option.bind_eq_some_iff.mp hnamed
    obtain ⟨x, hx, rfl⟩ := Option.map_eq_some_iff.mp hq
    exact List.mem_of_mem_head? hx

end ParseResult

namespace Notification

variable {ns : List Notification} {e : Symbol}

/-- A symbol is the next lexeme of its notification. -/
theorem exists_of_symbol? {n : Notification} {context : Option Text}
    (h : n.symbol? context = some e) :
    ∃ x, n.lookahead = some x ∧ e.name = x.symbolName ∧ e.name ≠ [] ∧ e.position = x.position := by
  obtain ⟨x, hx, h⟩ := Option.bind_eq_some_iff.mp h
  split at h
  next => cases h
  next hne =>
    cases h
    exact ⟨x, hx, by simp [name, hx], hne, rfl⟩

theorem exists_of_mem_declared {kind : DeclarationKind} (h : e ∈ declared kind ns) :
    ∃ n ∈ ns, n.checkpoint.declaration? = some kind ∧ ∃ context, n.symbol? context = some e := by
  obtain ⟨n, hn, hdeclares⟩ := List.mem_filterMap.mp h
  unfold declares? at hdeclares
  split at hdeclares
  next hkind => exact ⟨n, hn, hkind, none, hdeclares⟩
  next => cases hdeclares

theorem exists_of_mem_uses (h : e ∈ uses ns) :
    ∃ n ∈ ns, n.checkpoint.isReference = true ∧ ∃ context, n.symbol? context = some e := by
  induction ns using List.reverseRecOn with
  | nil => cases h
  | append_singleton ns n ih =>
    rw [uses_concat] at h
    rcases List.mem_append.mp h with h | h
    · obtain ⟨m, hm, hsymbol⟩ := ih h
      exact ⟨m, List.mem_append_left _ hm, hsymbol⟩
    · have huse := Option.mem_toList.mp h
      unfold use? at huse
      split at huse
      next href => exact ⟨n, by simp, href, _, huse⟩
      next => cases huse

/-- **The uses stand where their names are announced**, in the same order. -/
theorem sublist_position_uses (ns : List Notification) :
    ((uses ns).map Symbol.position).Sublist ((ns.filterMap named?).map (·.2.position)) := by
  induction ns using List.reverseRecOn with
  | nil => exact List.Sublist.refl _
  | append_singleton ns n ih =>
    rw [uses_concat, ← Option.toList_some, List.filterMap_append_toList, List.map_append,
      List.map_append]
    refine ih.append ?_
    unfold use?
    split
    next href =>
      cases hsymbol : n.symbol? (context ns) with
      | none => exact List.nil_sublist _
      | some e =>
        obtain ⟨x, hx, -, -, hposition⟩ := exists_of_symbol? hsymbol
        obtain ⟨naming, hnaming⟩ : ∃ naming, n.checkpoint.naming? = some naming := by
          unfold Checkpoint.naming?
          cases n.checkpoint.declaration? with
          | some kind => exact ⟨_, rfl⟩
          | none => exact ⟨_, if_pos href⟩
        simp [named?, hnaming, hx, hposition]
    next => exact List.nil_sublist _

end Notification

/-! ### The symbols of an answer -/

namespace Session

/-- **Every symbol is the next lexeme of a notification** without an error. -/
theorem exists_notification_of_mem (session : Session) {source : Text} {e : Symbol}
    (he : e ∈ (session.symbols source).1.declared ++
      (session.symbols source).1.references.flatMap Prod.snd) :
    ∃ n ∈ (ParseResult.ofSource source).clean, ∃ x, n.lookahead = some x ∧
      e.name = x.symbolName ∧ e.name ≠ [] ∧ e.position = x.position := by
  obtain ⟨t, hcollected, hanswer⟩ := session.exists_collected source
  suffices hsymbol : ∃ n ∈ (ParseResult.ofSource source).clean, ∃ context,
      n.symbol? context = some e by
    obtain ⟨n, hn, context, hsymbol⟩ := hsymbol
    exact ⟨n, hn, Notification.exists_of_symbol? hsymbol⟩
  rw [hanswer] at he
  rcases List.mem_append.mp he with he | he
  · have hmem : ∃ kind, e ∈ Notification.declared kind (ParseResult.ofSource source).clean := by
      change e ∈ t.grammarName.toList ++ t.charSets ++ t.tokens ++ t.productions at he
      rw [hcollected.grammarName, hcollected.charSets, hcollected.tokens,
        hcollected.productions] at he
      simp only [List.mem_append, Option.mem_toList] at he
      rcases he with ((he | he) | he) | he
      · exact ⟨.grammar, List.mem_of_getLast? he⟩
      · exact ⟨.charSet, he⟩
      · exact ⟨.token, he⟩
      · exact ⟨.production, he⟩
    obtain ⟨kind, hmem⟩ := hmem
    obtain ⟨n, hn, -, hsymbol⟩ := Notification.exists_of_mem_declared hmem
    exact ⟨n, hn, hsymbol⟩
  · obtain ⟨entry, hentry, huse⟩ := List.mem_flatMap.mp he
    rw [← hcollected.sorted.get_of_mem hentry, hcollected.references] at huse
    obtain ⟨n, hn, -, hsymbol⟩ := Notification.exists_of_mem_uses (List.mem_filter.mp huse).1
    exact ⟨n, hn, hsymbol⟩

/-- **Every symbol is a lexeme** of the source, a name or a literal. If it is a name, it does not come
right after a number. -/
theorem exists_lexeme_of_mem (session : Session) {source : Text} {e : Symbol}
    (he : e ∈ (session.symbols source).1.declared ++
      (session.symbols source).1.references.flatMap Prod.snd) :
    ∃ read x rest, Lexeme.scan source = read ++ x :: rest ∧ x.token.any Token.isSymbol = true ∧
      e.name = x.text ∧ e.position = x.position ∧
      (x.token = some .ident → Lexeme.lastToken read ≠ some .number) := by
  obtain ⟨n, hn, x, hx, hname, hne, hposition⟩ := session.exists_notification_of_mem he
  obtain ⟨read, rest, hscan, hnumber⟩ := ParseResult.exists_read_of_mem_clean hn hx
  have hsymbol : x.token.any Token.isSymbol = true := by
    by_contra hnot
    exact hne (by rw [hname, Lexeme.symbolName, if_neg hnot])
  have htext : e.name = x.text := by rw [hname, Lexeme.symbolName, if_pos hsymbol]
  exact ⟨read, x, rest, hscan, hsymbol, htext, hposition, hnumber⟩

/-- **A symbol that is named by a word is a longest word of the source**, unless a pragma ends where
it begins. -/
theorem exists_cut_of_mem (session : Session) {source : Text} {e : Symbol}
    (he : e ∈ (session.symbols source).1.declared ++
      (session.symbols source).1.references.flatMap Prod.snd)
    (hword : e.isWord = true) (hpragma : Piece.endsPragma source e.position = false) :
    ∃ pre post, source = pre ++ (e.name ++ post) ∧
      e.position = (LineIndex.ofText source).position pre.size ∧
      (∀ c ∈ e.name, Text.isWord c = true) ∧ pre.getLast?.any Text.isWord = false ∧
      post.head?.any Text.isWord = false := by
  obtain ⟨read, x, rest, hscan, hsymbol, htext, hposition, hnumber⟩ :=
    session.exists_lexeme_of_mem he
  have hident : x.token = some .ident := by
    have hmem : x ∈ Lexeme.scan source := by simp [hscan]
    have hspelled := Lexeme.startsWord_of_mem_scan hmem hsymbol
    rw [Symbol.isWord, htext, hspelled] at hword
    exact of_decide_eq_true hword
  obtain ⟨pre, post, hsource, hplace, hall, hpost, hpre⟩ :=
    Lexeme.exists_cut_of_ident hscan hident
  rw [← hposition] at hplace hpre
  rw [← htext] at hsource hall
  refine ⟨pre, post, hsource, hplace, hall, ?_, hpost⟩
  by_contra hlast
  rcases hpre (eq_true_of_ne_false hlast) with hlast | hlast
  · exact hnumber hident hlast
  · rw [hpragma] at hlast
    cases hlast

/-- **The uses of a name stand in the order of the source**, whatever errors it has. -/
theorem pairwise_get_references (session : Session) (source name : Text) :
    ((session.symbols source).1.references.get name).Pairwise
      fun u v => u.position < v.position := by
  obtain ⟨t, hcollected, hanswer⟩ := session.exists_collected source
  have huses : (Notification.uses (ParseResult.ofSource source).clean).Pairwise
      fun u v => u.position < v.position := by
    have hnamed := ParseResult.increasing_named_clean source
    refine List.pairwise_map.mp (List.Pairwise.sublist
      (Notification.sublist_position_uses _) (List.pairwise_map.mpr hnamed))
  rw [hanswer]
  change (t.references.get name).Pairwise _
  rw [hcollected.references]
  exact huses.filter _

end Session

end GrammarWorkbench
