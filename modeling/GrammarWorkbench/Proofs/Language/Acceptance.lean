import GrammarWorkbench.Proofs.Language.Completeness
import GrammarWorkbench.Proofs.Language.Soundness

/-!
# The parser accepts exactly the grammars

The sections of a grammar are met one after the other, from the last to the first
(`GrammarWorkbench.Goal.clean_grammar`), and what is met has the form of a grammar
(`GrammarWorkbench.Goal.Clean.reads`). Together with the fact that the first error is never
suppressed, this makes the parser a decision procedure for the rules of
`GrammarWorkbench.Part.rule`: `GrammarWorkbench.ParseResult.isOk_ofSource_iff`.

A source may go on after the period that ends its grammar. What comes there is not looked at, except
for its first lexeme, which has to be a token.
-/

namespace GrammarWorkbench

namespace Goal

open Phrase

variable {gs : List Goal} {u v w ts rest : List (Option Token)} {l : List Token}

/-! ### The sections, each before the ones that may follow it -/

/-- Further declarations of character sets. -/
theorem clean_charSets (hl : .ident ∉ l) (hw : Derives (many (part .charSet)) w)
    (h : Clean gs rest) (hrest : Starts l rest) : Clean (charSets :: gs) (w ++ rest) := by
  refine many_induction (P := fun w => Clean (charSets :: gs) (w ++ rest)) ?_ ?_ hw
  · refine Clean.omit (fun t ht => ?_) h hrest
    have : t ≠ .ident := fun he => hl (he ▸ ht)
    simp [move, this]
  · intro u v hu hv ih
    rw [derives_part] at hu
    simp only [Part.rule, derives_append, derives_tok] at hu
    obtain ⟨_, _, rfl, ⟨_, c, rfl, ⟨_, _, rfl, rfl, rfl⟩, hc⟩, rfl⟩ := hu
    have hstarts := starts_append (starts_many starts_charSet hv) hrest
    have hperiod := ((ih.announce .charactersSection).boundary).require (k := .period) hstarts.valid
    obtain ⟨hset, hvalid⟩ := clean_set hc hperiod (starts_cons (by decide))
    have hequal := (hset.announce .setOperand).require (k := .equal) hvalid
    have hassign := hequal.announce .charSetAssign
    simpa using Clean.take (g := charSets) (t := some .ident) (some .charSetName)
      ([Goal.announce .charSetAssign, .require .equal, .announce .setOperand] ++ set ++
        [Goal.require .period, .boundary, .announce .charactersSection, charSets])
      rfl (by simp) (by simpa using hassign)

/-- One declaration of a token, after its name. -/
theorem clean_declaration {s : TokenSection} (hl : .equal ∉ l ∧ .parenPeriod ∉ l)
    (hu : Derives (opt (tok .equal ++ part .tokenExpression ++ tok .period)) u)
    (hv : Derives (opt (part .action)) v) (h : Clean gs rest) (hrest : Starts l rest) :
    Clean (definitionOption :: actionOption :: boundary :: .announce s.checkpoint :: gs)
        (u ++ (v ++ rest)) ∧
      (u ++ (v ++ rest)).head? ≠ some none := by
  have haction := clean_actionOption hl.2 hv (h.announce s.checkpoint).boundary hrest
  have hstarts : Starts (.parenPeriod :: l) (v ++ rest) :=
    starts_append (starts_opt starts_action hv) hrest
  rcases derives_opt.mp hu with rfl | hu
  · refine ⟨Clean.omit (move_optionMove_of_not_mem (fun _ => rfl) ?_) haction hstarts,
      hstarts.valid⟩
    simpa using hl.1
  · simp only [derives_append, derives_tok] at hu
    obtain ⟨_, _, rfl, ⟨_, e, rfl, rfl, he⟩, rfl⟩ := hu
    have hperiod := haction.require (k := .period) hstarts.valid
    have hexpr := meetsTokenExpression he _ _ hperiod (starts_cons (by decide))
    have henter : Clean
        (definitionOption :: actionOption :: boundary :: .announce s.checkpoint :: gs)
        (some .equal :: (e ++ some .period :: (v ++ rest))) :=
      Clean.enter (fun _ => rfl) (by simpa using hexpr.announce .tokenExpression)
        ((starts_tokenExpression he).append).valid
    exact ⟨by simpa using henter, by simp⟩

/-- Further declarations of tokens. -/
theorem clean_tokenDeclarations {s : TokenSection}
    (hl : ∀ t ∈ l, t.isSymbol = false ∧ t ≠ .badString ∧ t ≠ .equal ∧ t ≠ .parenPeriod)
    (hw : Derives (many (part .tokenDeclaration)) w) (h : Clean gs rest) (hrest : Starts l rest) :
    Clean (tokenDeclarations s :: gs) (w ++ rest) := by
  refine many_induction (P := fun w => Clean (tokenDeclarations s :: gs) (w ++ rest)) ?_ ?_ hw
  · refine Clean.omit (fun t ht => ?_) h hrest
    have := hl t ht
    cases t <;> first | rfl | simp [Token.isSymbol] at this
  · intro u v hu hv ih
    rw [derives_part] at hu
    simp only [Part.rule, derives_append] at hu
    obtain ⟨_, c, rfl, ⟨_, b, rfl, ha, hb⟩, hc⟩ := hu
    obtain ⟨t, ht, rfl⟩ := derives_symbol.mp ha
    have hstarts : Starts ([Token.ident, .string, .char] ++ l) (v ++ rest) :=
      starts_append (starts_many starts_tokenDeclaration hv) hrest
    obtain ⟨hdecl, hvalid⟩ := clean_declaration (s := s)
      (by simpa using ⟨fun h => (hl _ h).2.2.1 rfl, fun h => (hl _ h).2.2.2 rfl⟩) hb hc ih hstarts
    have hmove : (tokenDeclarations s).move (some t) = .take (some .tokenName)
        [definitionOption, actionOption, boundary, .announce s.checkpoint,
          tokenDeclarations s] := by
      cases t <;> first | rfl | simp [Token.isSymbol] at ht
    simpa using Clean.take _ _ hmove hvalid hdecl

/-- Further declarations of comments. -/
theorem clean_comments (hw : Derives (many (part .comment)) w) (h : Clean gs rest)
    (hrest : Starts [.ignoreKw, .productionsKw] rest) :
    Clean (commentDeclarations :: gs) (w ++ rest) := by
  refine many_induction (P := fun w => Clean (commentDeclarations :: gs) (w ++ rest)) ?_ ?_ hw
  · exact Clean.omit (move_optionMove_of_not_mem (fun _ => rfl) (by decide)) h hrest
  · intro u v hu hv ih
    rw [derives_part] at hu
    simp only [Part.rule, derives_append, derives_tok] at hu
    obtain ⟨_, n, rfl, ⟨_, b, rfl, ⟨_, _, rfl, ⟨_, a, rfl, ⟨_, _, rfl, rfl, rfl⟩, ha⟩, rfl⟩, hb⟩,
      hn⟩ := hu
    have hstarts : Starts [.commentsKw, .ignoreKw, .productionsKw] (v ++ rest) :=
      starts_append (starts_many starts_comment hv) hrest
    have hnested : Clean (nestedOption :: boundary :: commentDeclarations :: gs)
        (n ++ (v ++ rest)) := by
      rcases derives_opt.mp hn with rfl | hn
      · exact Clean.omit (move_optionMove_of_not_mem (fun _ => rfl) (by decide)) ih.boundary hstarts
      · obtain rfl := derives_tok.mp hn
        exact Clean.enter (fun _ => rfl) (ih.boundary.announce .afterNested) hstarts.valid
    have hfollow : Starts [.nestedKw, .commentsKw, .ignoreKw, .productionsKw] (n ++ (v ++ rest)) :=
      starts_append (l := [.nestedKw])
        (starts_opt (fun h => derives_tok.mp h ▸ starts_cons (by simp)) hn) hstarts
    have hto := meetsTokenExpression hb _ _ (hnested.announce .commentsTo)
      (hfollow.mono (by decide))
    have hfrom := ((hto.announce .tokenExpression).require (k := .toKw)
      ((starts_tokenExpression hb).append).valid).announce .commentsFrom
    have hexpr := meetsTokenExpression ha _ _ hfrom (starts_cons (by decide))
    have hkeyword := ((hexpr.announce .tokenExpression).require (k := .fromKw)
      ((starts_tokenExpression ha).append).valid).announce .commentsKeyword
    have henter : Clean (commentDeclarations :: gs)
        (some .commentsKw :: some .fromKw ::
          (a ++ some .toKw :: (b ++ (n ++ (v ++ rest))))) :=
      Clean.enter (fun _ => rfl) (by simpa using hkeyword) (by simp)
    simpa using henter

/-- Further sets of ignored characters. -/
theorem clean_ignoreSets (hw : Derives (many (tok .ignoreKw ++ part .set)) w) (h : Clean gs rest)
    (hrest : Starts [.productionsKw] rest) : Clean (ignoreSets :: gs) (w ++ rest) := by
  refine many_induction (P := fun w => Clean (ignoreSets :: gs) (w ++ rest)) ?_ ?_ hw
  · exact Clean.omit (move_optionMove_of_not_mem (fun _ => rfl) (by decide)) h hrest
  · intro u v hu hv ih
    simp only [derives_append, derives_tok] at hu
    obtain ⟨_, a, rfl, rfl, ha⟩ := hu
    have hstarts : Starts [.ignoreKw, .productionsKw] (v ++ rest) :=
      starts_append (starts_many starts_tok_append hv) hrest
    obtain ⟨hset, hvalid⟩ :=
      clean_set ha (ih.announce .ignoreSet).boundary (hstarts.mono (by decide))
    have henter : Clean (ignoreSets :: gs) (some .ignoreKw :: (a ++ (v ++ rest))) :=
      Clean.enter (fun _ => rfl) (by simpa using hset.announce .setOperand) hvalid
    simpa using henter

/-- Further productions. -/
theorem clean_productions (hw : Derives (many (part .production)) w) (h : Clean gs rest)
    (hrest : Starts [.endKw] rest) : Clean (productions :: gs) (w ++ rest) := by
  refine many_induction (P := fun w => Clean (productions :: gs) (w ++ rest)) ?_ ?_ hw
  · refine Clean.omit ?_ h hrest
    decide
  · intro u v hu hv ih
    rw [derives_part] at hu
    simp only [Part.rule, derives_append, derives_tok] at hu
    obtain ⟨_, _, rfl, ⟨_, e, rfl, ⟨_, _, rfl, ⟨_, c, rfl, ⟨_, a, rfl, rfl, ha⟩, hc⟩, rfl⟩, he⟩,
      rfl⟩ := hu
    have hstarts : Starts [.ident, .endKw] (v ++ rest) :=
      starts_append (starts_many starts_production hv) hrest
    have hperiod := (ih.boundary.announce .productionDone).require (k := .period) hstarts.valid
    have hexpr := meetsExpression he _ _ hperiod (starts_cons (by decide))
    have hvalid : (e ++ some .period :: (v ++ rest)).head? ≠ some none :=
      (starts_append (starts_expression he) (starts_cons (l := [.period]) (by simp))).valid
    have hequal := (hexpr.announce .expressionStart).require (k := .equal) hvalid
    have haction := clean_actionOption (l := [.equal]) (by decide) hc hequal (starts_cons (by simp))
    have hfollow : Starts [.parenPeriod, .equal]
        (c ++ some .equal :: (e ++ some .period :: (v ++ rest))) :=
      starts_append (starts_opt starts_action hc) (starts_cons (by simp))
    have hattrs := clean_attributesOption (c := .afterAttributes) (by decide) ha haction hfollow
    have hvalid' := (starts_append (starts_opt starts_attributes ha) hfollow).valid
    have htake : Clean (productions :: gs) (some .ident :: (a ++ (c ++ some .equal ::
        (e ++ some .period :: (v ++ rest))))) :=
      .take (some .productionName) _ rfl hvalid'
        (by simpa using hattrs.announce .afterProductionName)
    simpa using htake

/-! ### The whole grammar -/

/-- A section of character sets, or none. -/
theorem clean_charactersOption (hl : .ident ∉ l ∧ .charactersKw ∉ l)
    (hw : Derives (opt (tok .charactersKw ++ many (part .charSet))) w) (h : Clean gs rest)
    (hrest : Starts l rest) : Clean (charactersOption :: gs) (w ++ rest) := by
  rcases derives_opt.mp hw with rfl | hw
  · exact Clean.omit (move_optionMove_of_not_mem (fun _ => rfl) hl.2) h hrest
  · obtain ⟨_, v, rfl, hu, hv⟩ := derives_append.mp hw
    obtain rfl := derives_tok.mp hu
    have hstarts := starts_append (starts_many starts_charSet hv) hrest
    exact Clean.enter (fun _ => rfl) ((clean_charSets hl.1 hv h hrest).announce _) hstarts.valid

/-- A section of token declarations, or none. -/
theorem clean_tokensOption {s : TokenSection}
    (hl : ∀ t ∈ l, t.isSymbol = false ∧ t ≠ .badString ∧ t ≠ .equal ∧ t ≠ .parenPeriod)
    (hs : s.keyword ∉ l)
    (hw : Derives (opt (tok s.keyword ++ many (part .tokenDeclaration))) w) (h : Clean gs rest)
    (hrest : Starts l rest) : Clean (tokensOption s :: gs) (w ++ rest) := by
  rcases derives_opt.mp hw with rfl | hw
  · exact Clean.omit (move_optionMove_of_not_mem (fun _ => rfl) hs) h hrest
  · obtain ⟨_, v, rfl, hu, hv⟩ := derives_append.mp hw
    obtain rfl := derives_tok.mp hu
    have hstarts := starts_append (starts_many starts_tokenDeclaration hv) hrest
    exact Clean.enter (fun _ => rfl) ((clean_tokenDeclarations hl hv h hrest).announce _)
      hstarts.valid

/-- The productions and the end of a grammar. -/
theorem clean_ending (hw : Derives (many (part .production)) w) (hrest : rest.head? ≠ some none) :
    Clean [productionsStart, productionsOption, .require .endKw, .announce .endKeyword,
        .announce .endName, .require .ident, .announce .afterEndName, .require .period,
        .announce .endOfGrammar]
      (some .productionsKw :: (w ++ some .endKw :: some .ident :: some .period :: rest)) := by
  have hperiod := ((Clean.done rest).announce .endOfGrammar).require (k := .period) hrest
  have hname := ((hperiod.announce .afterEndName).require (k := .ident) (by simp)).announce .endName
  have hend := (hname.announce .endKeyword).require (k := .endKw) (by simp)
  have hend' : Starts [.endKw] (some .endKw :: some .ident :: some .period :: rest) :=
    starts_cons (by simp)
  have hprods := (clean_productions hw hend hend').announce .productionsKeyword
  have hvalid := (starts_append (starts_many starts_production hw) hend').valid
  exact .pass rfl (.take (g := productionsOption) (t := some .productionsKw) none
    [.announce .productionsKeyword, productions] rfl hvalid hprods)

/-- Global code ends where a section starts. -/
theorem clean_globalCode (hw : Derives (part .globalCode) w) (h : Clean gs rest)
    (hrest : Starts sectionStarts rest) :
    Clean (globalCode :: gs) (w ++ rest) ∧ (w ++ rest).head? ≠ some none := by
  have hskip : ∀ t : Option Token, t.any sectionStarts.contains = false →
      globalCode.move t = .skip [globalCode] := by
    intro t ht
    rw [any_contains_sectionStarts] at ht
    simp [move, ht]
  have hend : Clean (globalCode :: gs) rest := Clean.omit (by decide) h hrest
  rcases derives_opt.mp (derives_part.mp hw) with rfl | hw
  · exact ⟨hend, hrest.valid⟩
  · obtain ⟨_, v, rfl, hu, hv⟩ := derives_append.mp hw
    obtain ⟨t, ht, rfl⟩ := derives_one.mp hu
    have htext : Clean (globalCode :: gs) (v ++ rest) :=
      clean_text (fun t ht => hskip t (by simpa using ht)) hv hend
    cases t with
    | none => simp at ht
    | some t =>
      refine ⟨.skip _ (hskip _ ?_) htext, by simp⟩
      simpa using ht

/-- The mark that case is ignored, or none. -/
theorem clean_ignoreCaseOption (hl : .ignoreCaseKw ∉ l) (hw : Derives (opt (tok .ignoreCaseKw)) w)
    (h : Clean gs rest) (hrest : Starts l rest) : Clean (ignoreCaseOption :: gs) (w ++ rest) := by
  rcases derives_opt.mp hw with rfl | hw
  · exact Clean.omit (move_optionMove_of_not_mem (fun _ => rfl) hl) h hrest
  · obtain rfl := derives_tok.mp hw
    exact Clean.enter (fun _ => rfl) (h.announce .afterIgnoreCase) hrest.valid

/-- The text before a grammar ends at its keyword. -/
theorem clean_preamble (hw : Derives (part .preamble) w) (h : Clean gs (some .compilerKw :: rest)) :
    Clean (preamble :: gs) (w ++ some .compilerKw :: rest) := by
  refine clean_text (fun t ht => ?_) (derives_part.mp hw) (.pass rfl h)
  have : t ≠ some .compilerKw := by
    rintro rfl
    simp at ht
  simp [move, this]

/-- **Every word of the rules is met without an error**, before anything but an invalid lexeme. -/
theorem clean_grammar (hw : Derives (part .grammar) w) (hrest : rest.head? ≠ some none) :
    Clean grammar (w ++ rest) := by
  rw [derives_part] at hw
  simp only [Part.rule, derives_append, derives_tok] at hw
  obtain ⟨_, _, rfl, ⟨_, _, rfl, ⟨_, _, rfl, ⟨_, prods, rfl, ⟨_, _, rfl, ⟨_, ignores, rfl,
    ⟨_, comments, rfl, ⟨_, pragmas, rfl, ⟨_, tokens, rfl, ⟨_, chars, rfl, ⟨_, case, rfl,
    ⟨_, code, rfl, ⟨_, _, rfl, ⟨text, _, rfl, htext, rfl⟩, rfl⟩, hcode⟩, hcase⟩, hchars⟩, htokens⟩,
    hpragmas⟩, hcomments⟩, hignores⟩, rfl⟩, hprods⟩, rfl⟩, rfl⟩, rfl⟩ := hw
  -- Each section is met before those that follow it, so that the sections come in reverse.
  have h₁ := clean_ending hprods hrest
  have s₁ : Starts [.productionsKw] (some .productionsKw ::
    (prods ++ some .endKw :: some .ident :: some .period :: rest)) := starts_cons (by simp)
  have h₂ := clean_ignoreSets hignores h₁ s₁
  have s₂ := starts_append (starts_many starts_tok_append hignores) s₁
  have h₃ := clean_comments hcomments h₂ s₂
  have s₃ := starts_append (starts_many starts_comment hcomments) s₂
  have h₄ := clean_tokensOption (s := .pragmas) (by decide) (by decide) hpragmas h₃ s₃
  have s₄ := starts_append (starts_opt starts_tok_append hpragmas) s₃
  have h₅ := clean_tokensOption (s := .tokens) (by decide) (by decide) htokens h₄ s₄
  have s₅ := starts_append (starts_opt starts_tok_append htokens) s₄
  have h₆ := clean_charactersOption (by decide) hchars h₅ s₅
  have s₆ := starts_append (starts_opt starts_tok_append hchars) s₅
  have h₇ := clean_ignoreCaseOption (by decide) hcase h₆ s₆
  have s₇ := starts_append (l := [.ignoreCaseKw])
    (starts_opt (fun h => derives_tok.mp h ▸ starts_cons (by simp)) hcase) s₆
  obtain ⟨h₈, hvalid⟩ := clean_globalCode hcode h₇ s₇
  have h₉ := Clean.take (g := request .ident) (t := some .ident) none [] rfl
    hvalid (h₈.announce .afterGrammarName)
  have h₁₀ := (h₉.announce .grammarName).require (k := .compilerKw) (by simp)
  have h₁₁ := clean_preamble htext (h₁₀.announce .beforeCompiler)
  simpa [grammar] using h₁₁.announce .start

/-- **The goals of a grammar are met exactly by the words of the rules.** -/
theorem clean_grammar_iff : Clean grammar ts ↔
    ∃ w rest, ts = w ++ rest ∧ Derives (part .grammar) w ∧ rest.head? ≠ some none := by
  constructor
  · intro h
    obtain ⟨rest, hread⟩ := h.reads
    obtain ⟨w, hts, hw, hrest⟩ := derives_grammar_of_reads hread
    exact ⟨w, rest, hts, hw, hrest⟩
  · rintro ⟨w, rest, rfl, hw, hrest⟩
    exact clean_grammar hw hrest

end Goal

open Phrase in
/-- **The parser accepts exactly the grammars.** A source parses without an error if and only if its
lexemes begin with a word of the rules and no invalid lexeme comes right after that word. -/
theorem ParseResult.isOk_ofSource_iff (source : Text) :
    (ParseResult.ofSource source).isOk = true ↔
      ∃ w rest : List Lexeme, Lexeme.scan source = w ++ rest ∧
        Derives (part .grammar) (w.map Lexeme.token) ∧
        rest.head?.map Lexeme.token ≠ some none := by
  have hfresh : (Parsing.start (Lexeme.scan source)
      ((LineIndex.ofText source).position source.size)).Fresh := ⟨rfl, Nat.le_refl _⟩
  have hrun := Parsing.run_diagnostics_eq_nil_iff hfresh
  have hok : (ParseResult.ofSource source).isOk = true ↔
      Goal.Clean Goal.grammar ((Lexeme.scan source).map Lexeme.token) := by
    rw [ParseResult.isOk, List.isEmpty_iff]
    exact hrun
  rw [hok, Goal.clean_grammar_iff]
  constructor
  · rintro ⟨w, rest, heq, hw, hrest⟩
    obtain ⟨w, rest, hscan, rfl, rfl⟩ := List.map_eq_append_iff.mp heq
    exact ⟨w, rest, hscan, hw, by simpa using hrest⟩
  · rintro ⟨w, rest, hscan, hw, hrest⟩
    exact ⟨_, rest.map Lexeme.token, by rw [hscan, List.map_append], hw, by simpa using hrest⟩

end GrammarWorkbench
