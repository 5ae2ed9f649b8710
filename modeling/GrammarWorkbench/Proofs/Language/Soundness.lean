import GrammarWorkbench.Proofs.Language.Rules
import GrammarWorkbench.Proofs.Parse.Clean

/-!
# What an error-free parse has read

Every goal stands for a phrase: `GrammarWorkbench.Goal.phrase`. A list of goals reads a list of
tokens when the tokens fall into words of these phrases, one after the other, and something may be
left over (`GrammarWorkbench.Goal.Reads`). The theorem of this file is
`GrammarWorkbench.Goal.Clean.reads`: where the goals can be met without an error, they read the
tokens.

The proof is by induction on the parse, and its content is one lemma about the table,
`GrammarWorkbench.Goal.derives_of_consumes`: when a goal consumes a token, this token followed by
what the goals in its place read is a word of its own phrase.

A goal may also **demand** something of what comes after its word. This is how the rule that no
invalid lexeme follows a token of the grammar is carried to the host code that it constrains.
-/

namespace GrammarWorkbench

open Phrase

/-- The rest of a text with balanced brackets that is left inside `depth` further brackets, with the
token that closes all of them. -/
def Phrase.closing (text : Part) (close : Token) : Nat → Phrase
  | 0 => part text ++ tok close
  | depth + 1 => part text ++ (tok close ++ closing text close depth)

namespace Goal

/-- **The phrase of a goal.** -/
def phrase : Goal → Phrase
  | announce _ | boundary | productionsStart => .empty
  | require kind | request kind => tok kind
  | preamble => part .preamble
  | globalCode => many (lexemeBut sectionStarts)
  | ignoreCaseOption => opt (tok .ignoreCaseKw)
  | charactersOption => opt (tok .charactersKw ++ many (part .charSet))
  | charSets => many (part .charSet)
  | simpleSet => part .simpleSet
  | setOperations => many ((tok .plus ||| tok .minus) ++ part .simpleSet)
  | rangeOption => opt (tok .doublePeriod ++ tok .char)
  | tokensOption s => opt (tok s.keyword ++ many (part .tokenDeclaration))
  | tokenDeclarations _ => many (part .tokenDeclaration)
  | definitionOption => opt (tok .equal ++ part .tokenExpression ++ tok .period)
  | commentDeclarations => many (part .comment)
  | nestedOption => opt (tok .nestedKw)
  | ignoreSets => many (tok .ignoreKw ++ part .set)
  | tokenFactor => part .tokenFactor
  | tokenFactors => many (part .tokenFactor)
  | contextOption => opt (tok .contextKw ++ bracketed .paren (part .tokenExpression))
  | tokenAlternatives => many (tok .bar ++ part .tokenTerm)
  | productionsOption =>
    many (lexemeBut [.productionsKw]) ++ opt (tok .productionsKw ++ many (part .production))
  | productions => many (part .production)
  | attributesOption _ => opt (part .attributes)
  | attributes depth => closing .angleText .greater depth
  | dottedAttributes => many (lexemeBut [.periodGreater, .badString]) ++ tok .periodGreater
  | actionOption => opt (part .action)
  | action => many (lexemeBut [.periodParen, .badString, .parenPeriod]) ++ tok .periodParen
  | resolverOption => opt (tok .ifKw ++ bracketed .paren (part .condition))
  | condition depth => closing .parenText .rightParen depth
  | factors => many (part .factor)
  | alternatives => many (tok .bar ++ part .term)
  | symbol => Phrase.symbol ++ opt (part .attributes)
  | recovery => many (lexemeBut [])

/-- What a goal demands of the tokens after its word. -/
def Demands (g : Goal) (after : List (Option Token)) : Prop :=
  match g with
  | require _ | request _ => after.head? ≠ some none
  | productionsStart => after.head? = some (some .productionsKw)
  | _ => True

/-- **The goals read the tokens**, and `rest` is left over. -/
def Reads : List Goal → List (Option Token) → List (Option Token) → Prop
  | [], ts, rest => ts = rest
  | g :: gs, ts, rest =>
    ∃ u after, ts = u ++ after ∧ g.phrase.Derives u ∧ g.Demands after ∧ Reads gs after rest

variable {g : Goal} {gs next : List Goal} {t : Option Token} {ts u rest : List (Option Token)}

theorem reads_nil : Reads [] ts rest ↔ ts = rest := Iff.rfl

theorem reads_cons : Reads (g :: gs) ts rest ↔
    ∃ u after, ts = u ++ after ∧ g.phrase.Derives u ∧ g.Demands after ∧ Reads gs after rest :=
  Iff.rfl

theorem reads_announce {c : Checkpoint} : Reads (announce c :: gs) ts rest ↔ Reads gs ts rest := by
  rw [reads_cons]
  constructor
  · rintro ⟨u, after, rfl, hu, -, h⟩
    obtain rfl := derives_empty.mp hu
    exact h
  · intro h
    exact ⟨[], ts, rfl, derives_empty.mpr rfl, trivial, h⟩

theorem reads_require {k : Token} : Reads (require k :: gs) ts rest ↔
    ∃ after, ts = some k :: after ∧ after.head? ≠ some none ∧ Reads gs after rest := by
  rw [reads_cons]
  constructor
  · rintro ⟨u, after, rfl, hu, hd, h⟩
    obtain rfl := derives_tok.mp hu
    exact ⟨after, rfl, hd, h⟩
  · rintro ⟨after, rfl, hd, h⟩
    exact ⟨[some k], after, rfl, derives_tok.mpr rfl, hd, h⟩

/-- Where a word is read, a token that is requested is there like one that is required. -/
theorem reads_request {k : Token} : Reads (request k :: gs) ts rest ↔
    ∃ after, ts = some k :: after ∧ after.head? ≠ some none ∧ Reads gs after rest :=
  reads_require

theorem reads_append {hs : List Goal} :
    Reads (gs ++ hs) ts rest ↔ ∃ mid, Reads gs ts mid ∧ Reads hs mid rest := by
  induction gs generalizing ts with
  | nil => simp [reads_nil]
  | cons g gs ih =>
    simp only [List.cons_append, reads_cons, ih]
    constructor
    · rintro ⟨u, after, rfl, hu, hd, mid, hgs, hhs⟩
      exact ⟨mid, ⟨u, after, rfl, hu, hd, hgs⟩, hhs⟩
    · rintro ⟨mid, ⟨u, after, rfl, hu, hd, hgs⟩, hhs⟩
      exact ⟨u, after, rfl, hu, hd, mid, hgs, hhs⟩

/-- The phrase of a list of goals. -/
def phrases (gs : List Goal) : Phrase :=
  gs.foldr (fun g p => g.phrase ++ p) .empty

/-- What goals have read is a word of their phrase. -/
theorem Reads.derives (h : Reads gs ts rest) :
    ∃ u, ts = u ++ rest ∧ (phrases gs).Derives u := by
  induction gs generalizing ts with
  | nil =>
    obtain rfl := reads_nil.mp h
    exact ⟨[], rfl, .empty⟩
  | cons g gs ih =>
    obtain ⟨u, after, rfl, hu, -, hgs⟩ := reads_cons.mp h
    obtain ⟨v, rfl, hv⟩ := ih hgs
    exact ⟨u ++ v, by simp, .seq hu hv⟩

end Goal

/-! ### Words that grow at the front -/

namespace Phrase

variable {p q : Phrase} {u v w : List (Option Token)} {k : Token} {t : Option Token}

theorem Derives.tok_append (h : Derives q w) : Derives (tok k ++ q) (some k :: w) :=
  derives_append.mpr ⟨[some k], w, rfl, derives_tok.mpr rfl, h⟩

theorem Derives.many_cons {f : Option Token → Bool} (ht : f t = true)
    (h : Derives (many (Phrase.one f)) w) : Derives (many (Phrase.one f)) (t :: w) :=
  .cons (.one ht) h

/-- Text up to a closing token, with one lexeme more at the front. -/
theorem Derives.many_append_cons {f : Option Token → Bool} (ht : f t = true)
    (h : Derives (many (Phrase.one f) ++ q) w) : Derives (many (Phrase.one f) ++ q) (t :: w) := by
  obtain ⟨u, v, rfl, hu, hv⟩ := derives_append.mp h
  exact derives_append.mpr ⟨t :: u, v, rfl, hu.many_cons ht, hv⟩

/-- The two texts with balanced brackets: `close` closes what `kind` opens, and a further piece may
be put at the front. -/
theorem closing_cons {text : Part} {close : Token} {item : Phrase} {depth : Nat}
    (htext : text.rule = many item) (hu : Derives item u)
    (h : Derives (closing text close depth) v) : Derives (closing text close depth) (u ++ v) := by
  have hpart : ∀ {a : List (Option Token)}, Derives (part text) a →
      Derives (part text) (u ++ a) := by
    intro a ha
    rw [derives_part, htext] at ha ⊢
    exact .cons hu ha
  cases depth with
  | zero =>
    obtain ⟨a, b, rfl, ha, hb⟩ := derives_append.mp h
    exact derives_append.mpr ⟨u ++ a, b, by simp, hpart ha, hb⟩
  | succ depth =>
    obtain ⟨a, b, rfl, ha, hb⟩ := derives_append.mp h
    exact derives_append.mpr ⟨u ++ a, b, by simp, hpart ha, hb⟩

/-- Nothing but the closing token. -/
theorem closing_close {text : Part} {close : Token} {item : Phrase} {depth : Nat}
    (htext : text.rule = many item) (h : Derives (closing text close depth) v) :
    Derives (closing text close (depth + 1)) (some close :: v) := by
  refine derives_append.mpr ⟨[], some close :: v, rfl, ?_, h.tok_append⟩
  rw [derives_part, htext]
  exact .nil

theorem closing_zero {text : Part} {close : Token} {item : Phrase}
    (htext : text.rule = many item) : Derives (closing text close 0) [some close] := by
  refine derives_append.mpr ⟨[], [some close], rfl, ?_, derives_tok.mpr rfl⟩
  rw [derives_part, htext]
  exact .nil

/-- A further bracket, opened at the front, is closed before the others are. -/
theorem closing_open {text : Part} {o close : Token} {item : Phrase} {depth : Nat}
    (htext : text.rule = many item)
    (hitem : ∀ {a}, Derives (part text) a → Derives item (some o :: (a ++ [some close])))
    (h : Derives (closing text close (depth + 1)) v) :
    Derives (closing text close depth) (some o :: v) := by
  obtain ⟨a, b, rfl, ha, hb⟩ := derives_append.mp h
  obtain ⟨c, d, rfl, hc, hd⟩ := derives_append.mp hb
  obtain rfl := derives_tok.mp hc
  simpa using closing_cons htext (hitem ha) hd

end Phrase

theorem Phrase.any_contains_sectionStarts (t : Option Token) :
    t.any sectionStarts.contains = t.any Token.startsSection := by
  rcases t with _ | t
  · rfl
  · cases t <;> rfl

/-! ### The table, read as rules -/

namespace Goal

variable {g : Goal} {gs next : List Goal} {t : Option Token} {k : Token}
  {ts u rest after : List (Option Token)}

/-- The phrase of a list of goals, spelt out. -/
theorem derives_phrases_cons :
    (phrases (g :: gs)).Derives u ↔
      ∃ v w, u = v ++ w ∧ g.phrase.Derives v ∧ (phrases gs).Derives w :=
  derives_append

theorem derives_phrases_nil : (phrases []).Derives u ↔ u = [] := derives_empty

theorem derives_phrases_singleton : (phrases [g]).Derives u ↔ g.phrase.Derives u := by
  simp [derives_phrases_cons, derives_phrases_nil]

theorem derives_phrases_append {hs : List Goal} :
    (phrases (gs ++ hs)).Derives u ↔
      ∃ v w, u = v ++ w ∧ (phrases gs).Derives v ∧ (phrases hs).Derives w := by
  induction gs generalizing u with
  | nil => simp [derives_phrases_nil]
  | cons g gs ih =>
    simp only [List.cons_append, derives_phrases_cons, ih]
    constructor
    · rintro ⟨v, _, rfl, hv, w, x, rfl, hw, hx⟩
      exact ⟨v ++ w, x, by simp, ⟨v, w, rfl, hv, hw⟩, hx⟩
    · rintro ⟨_, x, rfl, ⟨v, w, rfl, hv, hw⟩, hx⟩
      exact ⟨v, w ++ x, by simp, hv, w, x, rfl, hw, hx⟩

/-- A checkpoint is passed without reading anything. -/
theorem derives_phrases_announce {c : Checkpoint} :
    (phrases (announce c :: gs)).Derives u ↔ (phrases gs).Derives u := by
  simp [derives_phrases_cons, phrase, derives_empty]

theorem derives_phrases_require :
    (phrases (require k :: gs)).Derives u ↔ ∃ w, u = some k :: w ∧ (phrases gs).Derives w := by
  simp [derives_phrases_cons, phrase, derives_tok]

theorem derives_phrases_boundary :
    (phrases (boundary :: gs)).Derives u ↔ (phrases gs).Derives u := by
  simp [derives_phrases_cons, phrase, derives_empty]

/-! The phrases of goals that always stand together are the parts of the rules. -/

theorem derives_set (h : (phrases (set ++ gs)).Derives u) :
    ∃ v w, u = v ++ w ∧ Derives (part .set) v ∧ (phrases gs).Derives w := by
  obtain ⟨v, w, rfl, hv, hw⟩ := derives_phrases_append.mp h
  refine ⟨v, w, rfl, .part ?_, hw⟩
  simpa [set, phrases, phrase, Part.rule, derives_append, derives_empty] using hv

theorem derives_tokenExpression (h : (phrases (tokenExpression ++ gs)).Derives u) :
    ∃ v w, u = v ++ w ∧ Derives (part .tokenExpression) v ∧ (phrases gs).Derives w := by
  obtain ⟨v, w, rfl, hv, hw⟩ := derives_phrases_append.mp h
  refine ⟨v, w, rfl, .part ?_, hw⟩
  obtain ⟨a, b, rfl, ha, hb⟩ := derives_phrases_cons.mp hv
  obtain ⟨c, d, rfl, hc, hd⟩ := derives_phrases_cons.mp hb
  obtain ⟨e, f, rfl, he, hf⟩ := derives_phrases_cons.mp hd
  obtain ⟨x, y, rfl, hx, hy⟩ := derives_phrases_cons.mp hf
  obtain rfl := derives_phrases_nil.mp hy
  refine derives_append.mpr ⟨(a ++ c) ++ e, x, by simp, .part ?_, hx⟩
  exact derives_append.mpr ⟨a ++ c, e, rfl, derives_append.mpr ⟨a, c, rfl, ha, hc⟩, he⟩

theorem derives_expression (h : (phrases (expression ++ gs)).Derives u) :
    ∃ v w, u = v ++ w ∧ Derives (part .expression) v ∧ (phrases gs).Derives w := by
  obtain ⟨v, w, rfl, hv, hw⟩ := derives_phrases_append.mp h
  refine ⟨v, w, rfl, .part ?_, hw⟩
  obtain ⟨a, b, rfl, ha, hb⟩ := derives_phrases_cons.mp hv
  obtain ⟨c, d, rfl, hc, hd⟩ := derives_phrases_cons.mp hb
  obtain ⟨e, f, rfl, he, hf⟩ := derives_phrases_cons.mp hd
  obtain rfl := derives_phrases_nil.mp hf
  refine derives_append.mpr ⟨a ++ c, e, by simp, .part ?_, he⟩
  exact derives_append.mpr ⟨a, c, rfl, ha, hc⟩

/-- A group of a token expression, after its opening bracket. -/
theorem derives_tokenGroup {kind : Brace} (h : (phrases (tokenGroup kind ++ gs)).Derives u) :
    ∃ v w, u = v ++ w ∧ (phrases gs).Derives w ∧
      Derives (bracketed kind (part .tokenExpression)) (some kind.opener :: v) := by
  simp only [tokenGroup, List.cons_append, derives_phrases_announce, List.append_assoc] at h
  obtain ⟨v, _, rfl, hv, hrest⟩ := derives_tokenExpression h
  obtain ⟨w, rfl, hw⟩ := derives_phrases_require.mp hrest
  exact ⟨v ++ [some kind.closer], w, by simp, derives_phrases_announce.mp hw,
    derives_bracketed.mpr ⟨v, rfl, hv⟩⟩

/-- A group of a production, after its opening bracket. -/
theorem derives_group {kind : Brace} (h : (phrases (group kind ++ gs)).Derives u) :
    ∃ v w, u = v ++ w ∧ (phrases gs).Derives w ∧
      Derives (bracketed kind (part .expression)) (some kind.opener :: v) := by
  simp only [group, List.cons_append, derives_phrases_announce, List.append_assoc] at h
  obtain ⟨v, _, rfl, hv, hrest⟩ := derives_expression h
  obtain ⟨w, rfl, hw⟩ := derives_phrases_require.mp hrest
  exact ⟨v ++ [some kind.closer], w, by simp, derives_phrases_announce.mp hw,
    derives_bracketed.mpr ⟨v, rfl, hv⟩⟩

/-- A factor of a token expression, read by the goals in its place. -/
theorem derives_tokenFactorMove (h : (tokenFactorMove t).Consumes next)
    (hu : (phrases (next ++ gs)).Derives u) :
    ∃ v w, u = v ++ w ∧ Derives (part .tokenFactor) (t :: v) ∧ (phrases gs).Derives w := by
  have hsymbol : ∀ {k : Token} {c : Checkpoint}, k.isSymbol = true →
      (phrases ([announce c] ++ gs)).Derives u →
      ∃ v w, u = v ++ w ∧ Derives (part .tokenFactor) (some k :: v) ∧ (phrases gs).Derives w := by
    intro k c hk hu
    refine ⟨[], u, rfl, .part (.left (derives_symbol.mpr ⟨k, hk, rfl⟩)), ?_⟩
    simpa [derives_phrases_announce] using hu
  have hgroup : ∀ {kind : Brace}, (phrases (tokenGroup kind ++ gs)).Derives u →
      ∃ v w, u = v ++ w ∧ Derives (part .tokenFactor) (some kind.opener :: v) ∧
        (phrases gs).Derives w := by
    intro kind hu
    obtain ⟨v, w, rfl, hw, hv⟩ := derives_tokenGroup hu
    exact ⟨v, w, rfl, .part (.right (derives_inBrackets.mpr ⟨kind, hv⟩)), hw⟩
  unfold tokenFactorMove at h
  split at h <;> simp only [Move.consumes_take, Move.not_consumes_fail] at h <;> subst h
  · exact hsymbol rfl hu
  · exact hsymbol rfl hu
  · exact hsymbol rfl hu
  · exact hgroup hu
  · exact hgroup hu
  · exact hgroup hu

/-- A name or a literal of a production, read by the goals in its place. -/
theorem derives_symbolMove (h : (symbolMove t).Consumes next)
    (hu : (phrases (next ++ gs)).Derives u) :
    ∃ v w, u = v ++ w ∧ Derives (Phrase.symbol ++ opt (part .attributes)) (t :: v) ∧
      (phrases gs).Derives w := by
  have hsymbol : ∀ {k : Token} {c : Checkpoint}, k.isSymbol = true →
      (phrases ([announce .afterSymbol, attributesOption c] ++ gs)).Derives u →
      ∃ v w, u = v ++ w ∧ Derives (Phrase.symbol ++ opt (part .attributes)) (some k :: v) ∧
        (phrases gs).Derives w := by
    intro k c hk hu
    simp only [List.cons_append, List.nil_append, derives_phrases_announce] at hu
    obtain ⟨v, w, rfl, hv, hw⟩ := derives_phrases_cons.mp hu
    exact ⟨v, w, rfl, derives_append.mpr
      ⟨[some k], v, rfl, derives_symbol.mpr ⟨k, hk, rfl⟩, hv⟩, hw⟩
  unfold symbolMove at h
  split at h <;> simp only [Move.consumes_take, Move.not_consumes_fail] at h <;> subst h
  · exact hsymbol rfl hu
  · exact hsymbol rfl hu
  · exact hsymbol rfl hu

/-- A name or a literal is a factor, with or without the mark of a weak one. -/
theorem derives_factor_of_symbol {v : List (Option Token)}
    (h : Derives (Phrase.symbol ++ opt (part .attributes)) v) {w : List (Option Token)}
    (hw : w = [] ∨ w = [some .weakKw]) : Derives (part .factor) (w ++ v) := by
  obtain ⟨a, b, rfl, ha, hb⟩ := derives_append.mp h
  refine .part (.left (.left (.left (.left ?_))))
  refine derives_append.mpr ⟨w ++ a, b, by simp, derives_append.mpr ⟨w, a, rfl, ?_, ha⟩, hb⟩
  rcases hw with rfl | rfl
  · exact .absent
  · exact .present (derives_tok.mpr rfl)

/-- The rest of an action, read by its goal. -/
theorem derives_action (h : Derives action.phrase u) :
    Derives (part .action) (some .parenPeriod :: u) := by
  obtain ⟨a, b, rfl, ha, hb⟩ := derives_append.mp h
  exact .part (derives_append.mpr ⟨some .parenPeriod :: a, b, rfl, ha.tok_append, hb⟩)

/-- A factor of a production, read by the goals in its place. -/
theorem derives_factorMove (h : (factorMove t).Consumes next)
    (hu : (phrases (next ++ gs)).Derives u) :
    ∃ v w, u = v ++ w ∧ Derives (part .factor) (t :: v) ∧ (phrases gs).Derives w := by
  have hgroup : ∀ {kind : Brace}, (phrases (group kind ++ gs)).Derives u →
      ∃ v w, u = v ++ w ∧ Derives (part .factor) (some kind.opener :: v) ∧
        (phrases gs).Derives w := by
    intro kind hu
    obtain ⟨v, w, rfl, hw, hv⟩ := derives_group hu
    exact ⟨v, w, rfl,
      .part (.left (.left (.left (.right (derives_inBrackets.mpr ⟨kind, hv⟩))))), hw⟩
  have hword : ∀ {k : Token}, k = .anyKw ∨ k = .syncKw →
      (phrases ([announce .afterFactor] ++ gs)).Derives u →
      ∃ v w, u = v ++ w ∧ Derives (part .factor) (some k :: v) ∧ (phrases gs).Derives w := by
    intro k hk hu
    refine ⟨[], u, rfl, .part ?_, by simpa [derives_phrases_announce] using hu⟩
    rcases hk with rfl | rfl
    · exact .left (.right (derives_tok.mpr rfl))
    · exact .right (derives_tok.mpr rfl)
  unfold factorMove at h
  split at h
  · -- a weak symbol: the mark, and then the goal for the symbol itself
    obtain rfl := Move.consumes_take.mp h
    simp only [List.cons_append, List.nil_append, derives_phrases_announce] at hu
    obtain ⟨v, w, rfl, hv, hw⟩ := derives_phrases_cons.mp hu
    exact ⟨v, w, rfl, derives_factor_of_symbol hv (Or.inr rfl), hw⟩
  · exact hgroup (Move.consumes_take.mp h ▸ hu)
  · exact hgroup (Move.consumes_take.mp h ▸ hu)
  · exact hgroup (Move.consumes_take.mp h ▸ hu)
  · obtain rfl := Move.consumes_skip.mp h
    simp only [List.cons_append, List.nil_append, derives_phrases_announce] at hu
    obtain ⟨v, w, rfl, hv, hw⟩ := derives_phrases_cons.mp hu
    exact ⟨v, w, rfl, .part (.left (.left (.right (derives_action hv)))),
      derives_phrases_announce.mp hw⟩
  · exact hword (Or.inl rfl) (Move.consumes_take.mp h ▸ hu)
  · exact hword (Or.inr rfl) (Move.consumes_take.mp h ▸ hu)
  · obtain ⟨v, w, rfl, hv, hw⟩ := derives_symbolMove h hu
    exact ⟨v, w, rfl, derives_factor_of_symbol hv (Or.inl rfl), hw⟩

/-- The declarations of tokens, read by the goals in their place. -/
theorem derives_declarationMove {s : TokenSection} (h : (declarationMove s t).Consumes next)
    (hu : (phrases next).Derives u) : Derives (many (part .tokenDeclaration)) (t :: u) := by
  have hsymbol : ∀ {k : Token}, k.isSymbol = true →
      (phrases [definitionOption, actionOption, boundary, announce s.checkpoint,
        tokenDeclarations s]).Derives u →
      Derives (many (part .tokenDeclaration)) (some k :: u) := by
    intro k hk hu
    obtain ⟨a, b, rfl, ha, hb⟩ := derives_phrases_cons.mp hu
    obtain ⟨c, d, rfl, hc, hd⟩ := derives_phrases_cons.mp hb
    rw [derives_phrases_boundary, derives_phrases_announce, derives_phrases_singleton] at hd
    have hdecl : Derives (part .tokenDeclaration) (([some k] ++ a) ++ c) :=
      .part (.seq (.seq (derives_symbol.mpr ⟨k, hk, rfl⟩) ha) hc)
    simpa using Derives.cons hdecl hd
  unfold declarationMove at h
  split at h <;> simp only [Move.consumes_take, Move.not_consumes_spoil,
    Move.not_consumes_pass] at h <;> subst h
  · exact hsymbol rfl hu
  · exact hsymbol rfl hu
  · exact hsymbol rfl hu

/-- The inside of attributes in angle brackets. -/
theorem derives_attributesMove {depth : Nat} (h : (attributesMove depth t).Consumes next)
    (hu : (phrases next).Derives u) : Derives (closing .angleText .greater depth) (t :: u) := by
  unfold attributesMove at h
  split at h
  · exact absurd h (Move.not_consumes_fail _)
  · obtain rfl := Move.consumes_skip.mp h
    refine closing_open rfl (fun ha => .right ?_) (derives_phrases_singleton.mp hu)
    exact derives_append.mpr ⟨_, _, rfl, ha.tok_append, derives_tok.mpr rfl⟩
  · split at h
    · obtain rfl := Move.consumes_take.mp h
      obtain rfl := derives_phrases_nil.mp hu
      exact closing_zero rfl
    · obtain rfl := Move.consumes_skip.mp h
      exact closing_close rfl (derives_phrases_singleton.mp hu)
  · next hbad hless hgreater =>
    obtain rfl := Move.consumes_skip.mp h
    have ht : Derives (lexemeBut [.less, .greater, .badString]) [t] := by
      refine .one ?_
      cases t <;> simp_all
    exact closing_cons rfl (.left ht) (derives_phrases_singleton.mp hu)

/-- The inside of a condition. -/
theorem derives_conditionMove {depth : Nat} (h : (conditionMove depth t).Consumes next)
    (hu : (phrases next).Derives u) : Derives (closing .parenText .rightParen depth) (t :: u) := by
  unfold conditionMove at h
  split at h
  · obtain rfl := Move.consumes_skip.mp h
    exact closing_open rfl (fun ha => .right (derives_bracketed.mpr ⟨_, rfl, ha⟩))
      (derives_phrases_singleton.mp hu)
  · split at h
    · obtain rfl := Move.consumes_take.mp h
      obtain rfl := derives_phrases_nil.mp hu
      exact closing_zero rfl
    · obtain rfl := Move.consumes_skip.mp h
      exact closing_close rfl (derives_phrases_singleton.mp hu)
  · next hleft hright =>
    obtain rfl := Move.consumes_skip.mp h
    have ht : Derives (lexemeBut [.leftParen, .rightParen]) [t] := by
      refine .one ?_
      cases t <;> simp_all
    exact closing_cons rfl (.left ht) (derives_phrases_singleton.mp hu)

/-- An operand of a character set. -/
theorem derives_simpleSetMove (h : (simpleSetMove t).Consumes next)
    (hu : (phrases next).Derives u) : Derives (part .simpleSet) (t :: u) := by
  unfold simpleSetMove at h
  split at h <;> simp only [Move.consumes_take, Move.not_consumes_fail] at h <;> subst h
  · rw [derives_phrases_announce, derives_phrases_nil] at hu
    subst hu
    exact .part (.left (.left (.left (derives_tok.mpr rfl))))
  · rw [derives_phrases_announce, derives_phrases_nil] at hu
    subst hu
    exact .part (.left (.left (.right (derives_tok.mpr rfl))))
  · rw [derives_phrases_announce, derives_phrases_nil] at hu
    subst hu
    exact .part (.left (.right (derives_tok.mpr rfl)))
  · obtain ⟨a, b, rfl, ha, hb⟩ := derives_phrases_cons.mp hu
    rw [derives_phrases_announce, derives_phrases_nil] at hb
    subst hb
    rw [List.append_nil]
    exact .part (.right ha.tok_append)

/-! The declarations that are put back after each of them. In each, the words of the goals are cut
off one after the other and put together as the rule has them. -/

theorem derives_charSets (h : (charSets.move t).Consumes next) (hu : (phrases next).Derives u) :
    Derives (many (part .charSet)) (t :: u) := by
  simp only [move] at h
  split at h
  next ht =>
    obtain rfl := Move.consumes_take.mp h
    obtain ⟨v, rfl, hv⟩ := derives_phrases_require.mp (derives_phrases_announce.mp hu)
    obtain ⟨a, w, rfl, ha, hw⟩ := derives_set (derives_phrases_announce.mp hv)
    obtain ⟨x, rfl, hx⟩ := derives_phrases_require.mp hw
    rw [derives_phrases_boundary, derives_phrases_announce, derives_phrases_singleton] at hx
    have hset : Derives (part .charSet)
        ((([some Token.ident] ++ [some Token.equal]) ++ a) ++ [some Token.period]) :=
      .part (.seq (.seq (.seq (derives_tok.mpr rfl) (derives_tok.mpr rfl)) ha)
        (derives_tok.mpr rfl))
    rw [ht]
    simpa using Derives.cons hset hx
  next => exact absurd h Move.not_consumes_pass

theorem derives_comments (h : (commentDeclarations.move t).Consumes next)
    (hu : (phrases next).Derives u) : Derives (many (part .comment)) (t :: u) := by
  obtain ⟨rfl, rfl⟩ := consumes_optionMove.mp h
  simp only [List.append_assoc, List.cons_append, List.nil_append, derives_phrases_announce] at hu
  obtain ⟨v, rfl, hv⟩ := derives_phrases_require.mp hu
  obtain ⟨a, w, rfl, ha, hw⟩ := derives_tokenExpression (derives_phrases_announce.mp hv)
  obtain ⟨x, rfl, hx⟩ := derives_phrases_require.mp (derives_phrases_announce.mp hw)
  obtain ⟨b, y, rfl, hb, hy⟩ := derives_tokenExpression (derives_phrases_announce.mp hx)
  obtain ⟨c, z, rfl, hc, hz⟩ := derives_phrases_cons.mp (derives_phrases_announce.mp hy)
  rw [derives_phrases_boundary, derives_phrases_singleton] at hz
  have hcomment : Derives (part .comment)
      ((((([some Token.commentsKw] ++ [some Token.fromKw]) ++ a) ++ [some Token.toKw]) ++ b) ++
        c) :=
    .part (.seq (.seq (.seq (.seq (.seq (derives_tok.mpr rfl) (derives_tok.mpr rfl)) ha)
      (derives_tok.mpr rfl)) hb) hc)
  simpa using Derives.cons hcomment hz

theorem derives_productions (h : (productions.move t).Consumes next)
    (hu : (phrases next).Derives u) : Derives (many (part .production)) (t :: u) := by
  simp only [move] at h
  split at h
  next ht =>
    obtain rfl := Move.consumes_take.mp h
    simp only [List.cons_append, List.nil_append, derives_phrases_announce] at hu
    obtain ⟨a, v, rfl, ha, hv⟩ := derives_phrases_cons.mp hu
    obtain ⟨b, w, rfl, hb, hw⟩ := derives_phrases_cons.mp hv
    obtain ⟨x, rfl, hx⟩ := derives_phrases_require.mp hw
    obtain ⟨c, y, rfl, hc, hy⟩ := derives_expression (derives_phrases_announce.mp hx)
    obtain ⟨z, rfl, hz⟩ := derives_phrases_require.mp hy
    rw [derives_phrases_announce, derives_phrases_boundary, derives_phrases_singleton] at hz
    have hprod : Derives (part .production)
        ((((([some Token.ident] ++ a) ++ b) ++ [some Token.equal]) ++ c) ++ [some Token.period]) :=
      .part (.seq (.seq (.seq (.seq (.seq (derives_tok.mpr rfl) ha) hb) (derives_tok.mpr rfl)) hc)
        (derives_tok.mpr rfl))
    rw [ht]
    simpa using Derives.cons hprod hz
  next => exact absurd h Move.not_consumes_pass

/-- Text before the productions, and the productions. -/
theorem derives_productionsOption (h : (productionsOption.move t).Consumes next)
    (hu : (phrases next).Derives u) : productionsOption.phrase.Derives (t :: u) := by
  simp only [move] at h
  split at h
  next ht =>
    obtain rfl := Move.consumes_take.mp h
    rw [derives_phrases_announce, derives_phrases_singleton] at hu
    rw [ht]
    exact derives_append.mpr ⟨[], _, rfl, .nil, .present hu.tok_append⟩
  next ht =>
    split at h
    · exact absurd h Move.not_consumes_pass
    · obtain rfl := Move.consumes_skip.mp h
      refine Derives.many_append_cons ?_ (derives_phrases_singleton.mp hu)
      cases t <;> simp_all

/-- Optional attributes, by the two marks that open them. -/
theorem derives_attributesOption {c : Checkpoint} (h : ((attributesOption c).move t).Consumes next)
    (hu : (phrases next).Derives u) : Derives (opt (part .attributes)) (t :: u) := by
  simp only [move] at h
  split at h
  · obtain rfl := Move.consumes_skip.mp h
    obtain ⟨v, w, rfl, hv, hw⟩ := derives_phrases_cons.mp (derives_phrases_announce.mp hu)
    rw [derives_phrases_announce, derives_phrases_nil] at hw
    subst hw
    obtain ⟨a, b, rfl, ha, hb⟩ := derives_append.mp hv
    refine .present (.part (.left ?_))
    simpa using derives_append.mpr ⟨some .less :: a, b, rfl, ha.tok_append, hb⟩
  · obtain rfl := Move.consumes_skip.mp h
    obtain ⟨v, w, rfl, hv, hw⟩ := derives_phrases_cons.mp (derives_phrases_announce.mp hu)
    rw [derives_phrases_announce, derives_phrases_nil] at hw
    subst hw
    obtain ⟨a, b, rfl, ha, hb⟩ := derives_append.mp hv
    refine .present (.part (.right ?_))
    simpa using derives_append.mpr ⟨some .lessPeriod :: a, b, rfl, ha.tok_append, hb⟩
  · exact absurd h Move.not_consumes_pass

theorem derives_setOperations (h : (setOperations.move t).Consumes next)
    (hu : (phrases next).Derives u) : setOperations.phrase.Derives (t :: u) := by
  simp only [move] at h
  split at h
  next ht =>
    obtain rfl := Move.consumes_take.mp h
    obtain ⟨a, b, rfl, ha, hb⟩ := derives_phrases_cons.mp (derives_phrases_announce.mp hu)
    have hop : Derives (tok .plus ||| tok .minus) [t] := by
      rcases ht with rfl | rfl
      · exact .left (derives_tok.mpr rfl)
      · exact .right (derives_tok.mpr rfl)
    exact .cons (.seq hop ha) (derives_phrases_singleton.mp hb)
  next => exact absurd h Move.not_consumes_pass

theorem derives_contextOption (h : (contextOption.move t).Consumes next)
    (hu : (phrases next).Derives u) : contextOption.phrase.Derives (t :: u) := by
  obtain ⟨rfl, rfl⟩ := consumes_optionMove.mp h
  obtain ⟨v, rfl, hv⟩ := derives_phrases_require.mp hu
  have hv' : (phrases (tokenGroup .paren ++ [])).Derives v := by rwa [List.append_nil]
  obtain ⟨a, b, rfl, hb, ha⟩ := derives_tokenGroup hv'
  obtain rfl := derives_phrases_nil.mp hb
  rw [List.append_nil]
  exact .present ha.tok_append

/-- A further alternative of a token expression. -/
theorem derives_tokenAlternatives (h : (tokenAlternatives.move t).Consumes next)
    (hu : (phrases next).Derives u) : tokenAlternatives.phrase.Derives (t :: u) := by
  obtain ⟨rfl, rfl⟩ := consumes_optionMove.mp h
  rw [derives_phrases_announce] at hu
  obtain ⟨a, v, rfl, ha, hv⟩ := derives_phrases_cons.mp hu
  obtain ⟨b, w, rfl, hb, hw⟩ := derives_phrases_cons.mp hv
  obtain ⟨c, x, rfl, hc, hx⟩ := derives_phrases_cons.mp hw
  have hterm : Derives (part .tokenTerm) ((a ++ b) ++ c) := .part (.seq (.seq ha hb) hc)
  simpa [phrase] using Derives.cons hterm.tok_append (derives_phrases_singleton.mp hx)

theorem derives_dottedAttributes (h : (dottedAttributes.move t).Consumes next)
    (hu : (phrases next).Derives u) : dottedAttributes.phrase.Derives (t :: u) := by
  simp only [move] at h
  split at h
  · exact absurd h (Move.not_consumes_fail _)
  · obtain rfl := Move.consumes_take.mp h
    obtain rfl := derives_phrases_nil.mp hu
    exact derives_append.mpr ⟨[], _, rfl, .nil, derives_tok.mpr rfl⟩
  · obtain rfl := Move.consumes_skip.mp h
    refine Derives.many_append_cons ?_ (derives_phrases_singleton.mp hu)
    cases t <;> simp_all

theorem derives_actionText (h : (action.move t).Consumes next)
    (hu : (phrases next).Derives u) : action.phrase.Derives (t :: u) := by
  simp only [move] at h
  split at h
  · obtain rfl := Move.consumes_take.mp h
    obtain rfl := derives_phrases_nil.mp hu
    exact derives_append.mpr ⟨[], _, rfl, .nil, derives_tok.mpr rfl⟩
  · exact absurd h (Move.not_consumes_fail _)
  · exact absurd h (Move.not_consumes_fail _)
  · obtain rfl := Move.consumes_skip.mp h
    refine Derives.many_append_cons ?_ (derives_phrases_singleton.mp hu)
    cases t <;> simp_all

/-- A further alternative of a production. -/
theorem derives_alternatives (h : (alternatives.move t).Consumes next)
    (hu : (phrases next).Derives u) : alternatives.phrase.Derives (t :: u) := by
  obtain ⟨rfl, rfl⟩ := consumes_optionMove.mp h
  rw [derives_phrases_announce] at hu
  obtain ⟨a, v, rfl, ha, hv⟩ := derives_phrases_cons.mp hu
  obtain ⟨b, w, rfl, hb, hw⟩ := derives_phrases_cons.mp hv
  have hterm : Derives (part .term) (a ++ b) := .part (.seq ha hb)
  simpa [phrase] using Derives.cons hterm.tok_append (derives_phrases_singleton.mp hw)

theorem derives_recovery (h : (recovery.move t).Consumes next)
    (hu : (phrases next).Derives u) : recovery.phrase.Derives (t :: u) := by
  simp only [move] at h
  split at h
  · obtain rfl := Move.consumes_take.mp h
    obtain rfl := derives_phrases_nil.mp hu
    exact .cons (.one (by simp_all)) .nil
  · split at h
    · exact absurd h Move.not_consumes_pass
    · obtain rfl := Move.consumes_skip.mp h
      refine Derives.many_cons ?_ (derives_phrases_singleton.mp hu)
      cases t <;> rfl

/-- **The table follows the rules**: a consumed token, followed by what the goals in its place read,
is a word of the phrase of the goal. The goal for a resolver is set aside, since the condition of a
resolver depends on a demand. -/
theorem derives_of_consumes (hg : g ≠ resolverOption) (h : (g.move t).Consumes next)
    (hu : (phrases next).Derives u) : g.phrase.Derives (t :: u) := by
  cases g with
  | announce | boundary => exact absurd h (Move.not_consumes_still _)
  | productionsStart =>
    simp only [move] at h
    split at h <;> exact absurd h (Move.not_consumes_still _)
  | require k | request k =>
    simp only [move] at h
    split at h
    next ht =>
      obtain rfl := Move.consumes_take.mp h
      obtain rfl := derives_phrases_nil.mp hu
      exact derives_tok.mpr (by rw [ht])
    next => exact absurd h (Move.not_consumes_still _)
  | preamble =>
    simp only [move] at h
    split at h
    next => exact absurd h Move.not_consumes_pass
    next ht =>
      obtain rfl := Move.consumes_skip.mp h
      refine .part ((derives_part.mp (derives_phrases_singleton.mp hu)).many_cons ?_)
      cases t <;> simp_all
  | globalCode =>
    simp only [move] at h
    split at h
    next => exact absurd h Move.not_consumes_pass
    next ht =>
      obtain rfl := Move.consumes_skip.mp h
      refine Derives.many_cons ?_ (derives_phrases_singleton.mp hu)
      rw [any_contains_sectionStarts]
      simpa using ht
  | ignoreCaseOption | nestedOption =>
    obtain ⟨rfl, rfl⟩ := consumes_optionMove.mp h
    rw [derives_phrases_announce, derives_phrases_nil] at hu
    subst hu
    exact .present (derives_tok.mpr rfl)
  | charactersOption | tokensOption =>
    obtain ⟨rfl, rfl⟩ := consumes_optionMove.mp h
    rw [derives_phrases_announce, derives_phrases_singleton] at hu
    exact .present hu.tok_append
  | charSets => exact derives_charSets h hu
  | simpleSet => exact derives_simpleSetMove h hu
  | setOperations => exact derives_setOperations h hu
  | rangeOption =>
    obtain ⟨rfl, rfl⟩ := consumes_optionMove.mp h
    exact .present (derives_phrases_singleton.mp hu).tok_append
  | tokenDeclarations s => exact derives_declarationMove h hu
  | definitionOption =>
    obtain ⟨rfl, rfl⟩ := consumes_optionMove.mp h
    obtain ⟨a, b, rfl, ha, hb⟩ := derives_tokenExpression (derives_phrases_announce.mp hu)
    exact .present (.seq ha.tok_append (derives_phrases_singleton.mp hb))
  | commentDeclarations => exact derives_comments h hu
  | ignoreSets =>
    obtain ⟨rfl, rfl⟩ := consumes_optionMove.mp h
    obtain ⟨a, b, rfl, ha, hb⟩ := derives_set (derives_phrases_announce.mp hu)
    rw [derives_phrases_boundary, derives_phrases_announce, derives_phrases_singleton] at hb
    exact .cons ha.tok_append hb
  | tokenFactor =>
    have hu' : (phrases (next ++ [])).Derives u := by rwa [List.append_nil]
    obtain ⟨v, w, rfl, hv, hw⟩ := derives_tokenFactorMove h hu'
    obtain rfl := derives_phrases_nil.mp hw
    rwa [List.append_nil]
  | tokenFactors =>
    simp only [move] at h
    split at h
    · obtain ⟨goals, hm, rfl⟩ := Move.consumes_followedBy.mp h
      obtain ⟨v, w, rfl, hv, hw⟩ := derives_tokenFactorMove hm hu
      exact .cons hv (derives_phrases_singleton.mp hw)
    · exact absurd h Move.not_consumes_pass
  | contextOption => exact derives_contextOption h hu
  | tokenAlternatives => exact derives_tokenAlternatives h hu
  | productionsOption => exact derives_productionsOption h hu
  | productions => exact derives_productions h hu
  | attributesOption c => exact derives_attributesOption h hu
  | attributes depth => exact derives_attributesMove h hu
  | dottedAttributes => exact derives_dottedAttributes h hu
  | actionOption =>
    simp only [move] at h
    split at h
    next ht =>
      obtain rfl := Move.consumes_skip.mp h
      rw [derives_phrases_announce, derives_phrases_singleton] at hu
      rw [ht]
      exact .present (derives_action hu)
    next => exact absurd h Move.not_consumes_pass
  | action => exact derives_actionText h hu
  | resolverOption => exact absurd rfl hg
  | condition depth => exact derives_conditionMove h hu
  | factors =>
    simp only [move] at h
    split at h
    · obtain ⟨goals, hm, rfl⟩ := Move.consumes_followedBy.mp h
      obtain ⟨v, w, rfl, hv, hw⟩ := derives_factorMove hm hu
      exact .cons hv (derives_phrases_singleton.mp hw)
    · exact absurd h Move.not_consumes_pass
  | alternatives => exact derives_alternatives h hu
  | symbol =>
    have hu' : (phrases (next ++ [])).Derives u := by rwa [List.append_nil]
    obtain ⟨v, w, rfl, hv, hw⟩ := derives_symbolMove h hu'
    obtain rfl := derives_phrases_nil.mp hw
    rwa [List.append_nil]
  | recovery => exact derives_recovery h hu

/-- The resolver of a term. No invalid lexeme stands after the parenthesis that opens its condition,
and so the condition does not begin with one. -/
theorem derives_resolver (h : (resolverOption.move t).Consumes next) (hread : Reads next ts rest) :
    ∃ u, ts = u ++ rest ∧ resolverOption.phrase.Derives (t :: u) := by
  obtain ⟨rfl, rfl⟩ := consumes_optionMove.mp h
  simp only [reads_cons, reads_nil, phrase, derives_empty, derives_tok, Demands] at hread
  obtain ⟨_, _, rfl, rfl, -, _, _, rfl, rfl, hvalid, _, _, rfl, rfl, -, v, _, rfl, hv, -, _, _, rfl,
    rfl, -, rfl⟩ := hread
  refine ⟨some .leftParen :: v, rfl, .present (Derives.tok_append ?_)⟩
  obtain ⟨a, b, rfl, ha, hb⟩ := derives_append.mp hv
  obtain rfl := derives_tok.mp hb
  refine derives_bracketed.mpr ⟨a, rfl, .part ?_⟩
  rcases derives_many.mp (derives_part.mp ha) with rfl | ⟨c, d, rfl, hc, hd⟩
  · exact .absent
  · refine .present (.seq ?_ (.part hd))
    rcases derives_or.mp hc with hc | hc
    · obtain ⟨x, hx, rfl⟩ := derives_one.mp hc
      refine .left (.one ?_)
      cases x with
      | none => simp at hvalid
      | some x => simpa using hx
    · exact .right hc

/-! ### Goals that read nothing -/

/-- The goals that can be dropped without an error. -/
def isOptional : Goal → Bool
  | require _ | request _ | simpleSet | tokenFactor | attributes _ | dottedAttributes | action
  | condition _ | symbol => false
  | _ => true

/-- The empty word is a word of every goal that can be dropped. -/
theorem derives_nil (h : g.isOptional = true) : g.phrase.Derives [] := by
  cases g <;> simp only [isOptional, Bool.false_eq_true] at h
  case announce | boundary | productionsStart => exact .empty
  case preamble => exact .part .nil
  case productionsOption => exact derives_append.mpr ⟨[], [], rfl, .nil, .absent⟩
  case globalCode | charSets | setOperations | tokenDeclarations | commentDeclarations | ignoreSets
    | tokenFactors | tokenAlternatives | productions | factors | alternatives | recovery =>
    exact .nil
  all_goals exact .absent

/-- The other goals stay until they are met, or fail. -/
theorem isOptional_of_still {la : Option (Option Token)} {m : Still} (h : g.meet la = .still m)
    (hm : m = .pass ∨ ∃ c, m = .tell c) : g.isOptional = true := by
  cases g with
  | require k | request k =>
    exfalso
    rcases la with _ | t
    · obtain rfl := Move.still.inj h
      simp at hm
    · simp only [meet_some, move] at h
      split at h
      · cases h
      · obtain rfl := Move.still.inj h
        simp at hm
  | simpleSet | tokenFactor | attributes | dottedAttributes | action | condition | symbol =>
    exfalso
    rcases la with _ | t
    · obtain rfl := Move.still.inj h
      simp at hm
    · simp only [meet_some, move, simpleSetMove, tokenFactorMove, attributesMove, conditionMove,
        symbolMove] at h
      repeat' split at h
      all_goals first
        | cases h; done
        | obtain rfl := Move.still.inj h
          simp at hm
  | _ => rfl

/-- A goal that lets the next token pass reads nothing, and its demand is met. -/
theorem demands_of_still {m : Still} (h : g.meet ts.head? = .still m)
    (hm : m = .pass ∨ ∃ c, m = .tell c) : g.Demands ts := by
  have hopt := isOptional_of_still h hm
  cases g <;> simp only [isOptional, Bool.false_eq_true] at hopt <;> try exact trivial
  -- only the goal that asks for the productions is left
  rcases hts : ts.head? with _ | t
  · rw [hts] at h
    obtain rfl := Move.still.inj h
    simp at hm
  · rw [hts] at h
    simp only [meet_some, move] at h
    split at h
    next ht => exact hts.trans (congrArg some ht)
    next =>
      obtain rfl := Move.still.inj h
      simp at hm

theorem demands_of_consumes (h : (g.move t).Consumes next) (hread : Reads next ts rest)
    (hvalid : (∀ next, g.move t ≠ .skip next) → ts.head? ≠ some none) : g.Demands rest := by
  cases g with
  | require k | request k =>
    simp only [move] at h hvalid
    split at h
    next ht =>
      obtain rfl := Move.consumes_take.mp h
      exact reads_nil.mp hread ▸ hvalid (by simp [ht])
    next => exact absurd h (Move.not_consumes_still _)
  | productionsStart =>
    simp only [move] at h
    split at h <;> exact absurd h (Move.not_consumes_still _)
  | _ => trivial

/-! ### Whole parses -/

/-- **What an error-free parse has read** falls into the words of its goals. -/
theorem Clean.reads {gs : List Goal} (h : Clean gs ts) : ∃ rest, Reads gs ts rest := by
  have hword : ∀ {g : Goal} {next : List Goal} {t : Option Token} {ts rest : List (Option Token)},
      (g.move t).Consumes next → Reads next ts rest →
        ∃ u, ts = u ++ rest ∧ g.phrase.Derives (t :: u) := by
    intro g next t ts rest h hread
    by_cases hg : g = resolverOption
    · subst hg
      exact derives_resolver h hread
    · obtain ⟨u, rfl, hu⟩ := hread.derives
      exact ⟨u, rfl, derives_of_consumes hg h hu⟩
  induction h with
  | done ts => exact ⟨ts, rfl⟩
  | @pass g gs ts h _ ih =>
    obtain ⟨rest, hrest⟩ := ih
    exact ⟨rest, [], ts, rfl, derives_nil (isOptional_of_still h (Or.inl rfl)),
      demands_of_still h (Or.inl rfl), hrest⟩
  | @tell g gs ts c h _ ih =>
    obtain ⟨rest, hrest⟩ := ih
    exact ⟨rest, [], ts, rfl, derives_nil (isOptional_of_still h (Or.inr ⟨c, rfl⟩)),
      demands_of_still h (Or.inr ⟨c, rfl⟩), hrest⟩
  | @take g gs t ts before next h hvalid _ ih =>
    obtain ⟨rest, hrest⟩ := ih
    obtain ⟨mid, hnext, hgs⟩ := reads_append.mp hrest
    have hcons : (g.move t).Consumes next := Or.inl ⟨before, h⟩
    obtain ⟨u, rfl, hu⟩ := hword hcons hnext
    exact ⟨rest, t :: u, mid, rfl, hu, demands_of_consumes hcons hnext fun _ => hvalid, hgs⟩
  | @skip g gs t ts next h _ ih =>
    obtain ⟨rest, hrest⟩ := ih
    obtain ⟨mid, hnext, hgs⟩ := reads_append.mp hrest
    have hcons : (g.move t).Consumes next := Or.inr h
    obtain ⟨u, rfl, hu⟩ := hword hcons hnext
    exact ⟨rest, t :: u, mid, rfl, hu,
      demands_of_consumes hcons hnext fun hskip => absurd h (hskip next), hgs⟩

/-- Where the productions have to start, they do. -/
theorem derives_productions_of_head {after : List (Option Token)}
    (h : productionsOption.phrase.Derives u)
    (hhead : (u ++ some .endKw :: after).head? = some (some .productionsKw)) :
    Derives (tok .productionsKw ++ many (part .production)) u := by
  obtain ⟨a, b, rfl, ha, hb⟩ := derives_append.mp h
  rcases derives_many.mp ha with rfl | ⟨c, d, rfl, hc, -⟩
  · rcases derives_opt.mp hb with rfl | hb
    · simp at hhead
    · exact hb
  · obtain ⟨x, hx, rfl⟩ := derives_one.mp hc
    obtain rfl : x = some .productionsKw := by simpa using hhead
    simp at hx

/-- Host code that does not begin with an invalid lexeme. -/
theorem derives_globalCode_of_head (h : globalCode.phrase.Derives u)
    (hhead : (u ++ after).head? ≠ some none) : Derives (part .globalCode) u := by
  rcases derives_many.mp h with rfl | ⟨c, d, rfl, hc, hd⟩
  · exact .part .absent
  · obtain ⟨x, hx, rfl⟩ := derives_one.mp hc
    refine .part (.present (.seq (.one ?_) hd))
    cases x with
    | none => simp at hhead
    | some x => simpa using hx

/-- **What the goals of a whole grammar read is a grammar**, and no invalid lexeme comes after
it. -/
theorem derives_grammar_of_reads (h : Reads grammar ts rest) :
    ∃ w, ts = w ++ rest ∧ Derives (part .grammar) w ∧ rest.head? ≠ some none := by
  obtain ⟨a, _, rfl, ha, -, h₁⟩ := reads_cons.mp (reads_announce.mp h)
  obtain ⟨_, rfl, -, h₂⟩ := reads_require.mp (reads_announce.mp h₁)
  obtain ⟨_, rfl, hglobal, h₃⟩ := reads_request.mp (reads_announce.mp h₂)
  obtain ⟨b, _, rfl, hb, -, h₄⟩ := reads_cons.mp (reads_announce.mp h₃)
  obtain ⟨c, _, rfl, hc, -, h₅⟩ := reads_cons.mp h₄
  obtain ⟨d, _, rfl, hd, -, h₆⟩ := reads_cons.mp h₅
  obtain ⟨e, _, rfl, he, -, h₇⟩ := reads_cons.mp h₆
  obtain ⟨f, _, rfl, hf, -, h₈⟩ := reads_cons.mp h₇
  obtain ⟨i, _, rfl, hi, -, h₉⟩ := reads_cons.mp h₈
  obtain ⟨j, _, rfl, hj, -, h₁₀⟩ := reads_cons.mp h₉
  obtain ⟨_, _, rfl, hstart, hprods, h₁₁⟩ := reads_cons.mp h₁₀
  obtain rfl := derives_empty.mp hstart
  obtain ⟨k, _, rfl, hk, -, h₁₂⟩ := reads_cons.mp h₁₁
  obtain ⟨_, rfl, -, h₁₃⟩ := reads_require.mp h₁₂
  obtain ⟨_, rfl, -, h₁₄⟩ := reads_require.mp (reads_announce.mp (reads_announce.mp h₁₃))
  obtain ⟨_, rfl, hend, h₁₅⟩ := reads_require.mp (reads_announce.mp h₁₄)
  obtain rfl := reads_nil.mp (reads_announce.mp h₁₅)
  have hglobal' := derives_globalCode_of_head hb hglobal
  have hprods' := derives_productions_of_head hk hprods
  obtain ⟨_, l, rfl, hl, hl'⟩ := derives_append.mp hprods'
  obtain rfl := derives_tok.mp hl
  have hname : ∀ {t : Token}, Derives (tok t) [some t] := derives_tok.mpr rfl
  refine ⟨((((((((((((((a ++ [some Token.compilerKw]) ++ [some Token.ident]) ++ b) ++ c) ++ d) ++
    e) ++ f) ++ i) ++ j) ++ [some Token.productionsKw]) ++ l) ++ [some Token.endKw]) ++
    [some Token.ident]) ++ [some Token.period]), by simp, .part ?_, hend⟩
  exact .seq (.seq (.seq (.seq (.seq (.seq (.seq (.seq (.seq (.seq (.seq (.seq (.seq (.seq ha hname)
    hname) hglobal') hc) hd) he) hf) hi) hj) hname) hl') hname) hname) hname

end Goal

end GrammarWorkbench
