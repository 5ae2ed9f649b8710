import GrammarWorkbench.Proofs.Parse.Announced

/-!
# What a parse takes

A parse **takes** the lexemes of a grammar and **skips** host code. For names and keywords the
difference can be read off the text before them: as long as there is no error, a parse takes exactly
those that are part of the notation (`GrammarWorkbench.Spot.isGrammar`), which is
`GrammarWorkbench.ParseResult.filter_taken`.

Reading trusts its text to be a grammar. Where reading goes on with any lexeme, a parse insists on
one: the name of the grammar, its name and its period at the end, and the parenthesis after the
keyword of a resolver (`GrammarWorkbench.Spot.Accepts`). So in a source without an error every
lexeme is accepted at its spot (`GrammarWorkbench.ParseResult.accepts_of_isOk`).

Both are found in one pass over the run (`GrammarWorkbench.Parsing.Told.matches_taken`).
-/

namespace GrammarWorkbench

/-- A name or a keyword. -/
def Token.isWord (t : Token) : Bool :=
  t == .ident || t.isKeyword

/-- A name or a keyword. -/
def Lexeme.isWord (x : Lexeme) : Bool :=
  x.token.any Token.isWord

namespace Spot

variable {r : Spot} {t : Option Token} {x : Lexeme} {xs : List Lexeme}

/-! ### What is accepted -/

/-- **What must come next at a spot**, where reading itself would go on with anything. -/
def Accepts (r : Spot) (t : Option Token) : Prop :=
  match r.host, r.place with
  | some .resolver, _ => t = some .leftParen
  | none, .name | none, .endName => t = some .ident
  | none, .endPeriod => t = some .period
  | _, _ => True

theorem accepts_of_isSection (hhost : r.host = none) (hsection : r.place.isSection = true) :
    r.Accepts t := by
  obtain ⟨place, host⟩ := r
  obtain rfl : host = none := hhost
  cases place <;> first | exact trivial | cases hsection

theorem accepts_of_isOpen (h : r.isOpen = true) : r.Accepts t := by
  obtain ⟨place, host⟩ := r
  cases host with
  | some c => cases h
  | none => cases place <;> first | exact trivial | cases h

theorem accepts_of_mem_annotate_after {p : Spot × Lexeme}
    (hp : p ∈ (⟨.after, none⟩ : Spot).annotate xs) : p.1.Accepts p.2.token := by
  induction xs with
  | nil => cases hp
  | cons x xs ih =>
    rw [annotate, next_after] at hp
    rcases List.mem_cons.mp hp with rfl | hp
    · exact trivial
    · exact ih hp

/-! ### The words of the notation -/

/-- **The words of the notation of a grammar**: its keywords and names, outside the text around it
and outside host code. -/
def words (r : Spot) (xs : List Lexeme) : List Lexeme :=
  ((r.annotate xs).filter fun p => p.2.isWord && p.1.isGrammar p.2.token).map Prod.snd

theorem words_cons : r.words (x :: xs) =
    (if x.isWord && r.isGrammar x.token then [x] else []) ++ (r.next x.token).words xs := by
  rw [words, annotate, List.filter_cons]
  split <;> rfl

/-- After the grammar there is no notation. -/
theorem words_after (xs : List Lexeme) : (⟨.after, none⟩ : Spot).words xs = [] := by
  induction xs with
  | nil => rfl
  | cons x xs ih =>
    rw [words_cons, next_after, ih]
    simp [isGrammar, Place.isHost]

end Spot

/-- Whether a move takes the token, as part of the grammar. -/
def Move.takes : Move → Bool
  | take _ _ => true
  | still _ | skip _ | spoil _ _ _ => false

theorem Move.takes_followedBy (m : Move) (more : List Goal) :
    (m.followedBy more).takes = m.takes := by
  cases m <;> rfl

namespace Goal

variable {g : Goal} {gs next : List Goal} {t : Option Token}

/-! ### Required tokens -/

/-- Before a required token there is no host code but the one between the keyword of a resolver and
its parenthesis. -/
theorem host_require (t : Token) (gs : List Goal) :
    host (require t :: gs) = none ∨ host (require t :: gs) = some .resolver ∧ t = .leftParen := by
  unfold host
  split
  next h => cases h
  next h =>
    obtain ⟨ht, -⟩ := List.cons.inj h
    exact Or.inr ⟨rfl, by cases ht; rfl⟩
  next h =>
    obtain ⟨rfl, -⟩ := List.cons.inj h
    exact Or.inl rfl
  next h => cases h

/-- **A required token is what must come next.** At a place where one token only is accepted, the
goals after that token stand at another place, so that the token is the one that belongs there. -/
theorem accepts_require {t : Token} (h : Required t gs) :
    (spot (require t :: gs)).Accepts (some t) := by
  have hbefore : place (require t :: gs) = requiredAt t (place gs) := rfl
  rcases host_require t gs with hhost | ⟨hhost, rfl⟩
  · have hnone : spot (require t :: gs) = ⟨place (require t :: gs), none⟩ :=
      congrArg (Spot.mk _) hhost
    have hplace := congrArg Spot.place h.spot
    rw [hnone] at hplace ⊢
    cases hp : place (require t :: gs) with
    | name | endName | endPeriod =>
      rw [hp] at hplace hbefore
      replace hplace : place gs = _ := hplace
      rw [hplace] at hbefore
      unfold requiredAt at hbefore
      split at hbefore <;> first | rfl | cases hbefore
    | _ => exact trivial
  · rw [spot, hhost]
    rfl

/-- **What a goal consumes is accepted at its spot.** -/
theorem accepts_of_consumes (h : Joined (g :: gs)) (hm : (g.move t).Consumes next) :
    (spot (g :: gs)).Accepts t := by
  obtain ⟨hjoins, hgs⟩ := h
  cases g with
  | announce c => simp [move] at hm
  | boundary => simp [move] at hm
  | recovery => exact hjoins.elim
  | require t' =>
    simp only [move] at hm
    split at hm
    next ht =>
      subst ht
      exact accepts_require hjoins
    next => simp at hm
  | request t' =>
    obtain ⟨rfl, -, -⟩ := hjoins
    simp only [move] at hm
    split at hm
    next ht => exact ht
    next => simp at hm
  | preamble | globalCode | ignoreCaseOption | charactersOption | tokensOption
  | commentDeclarations | ignoreSets | productionsStart | productionsOption | charSets
  | tokenDeclarations | productions => exact trivial
  | attributes | dottedAttributes | action | condition => exact trivial
  | definitionOption => exact Spot.accepts_of_isSection rfl (congrArg Place.isSection hjoins.1)
  | attributesOption c => exact Spot.accepts_of_isSection rfl hjoins.2.2.1
  | actionOption => exact Spot.accepts_of_isSection rfl hjoins.1
  | simpleSet | setOperations | rangeOption | nestedOption | tokenFactor | tokenFactors
  | contextOption | tokenAlternatives | resolverOption | factors | alternatives | symbol =>
    exact Spot.accepts_of_isSection rfl (Place.isSection_of_isBody hjoins.1)

/-! ### What is taken and what is skipped -/

theorem takes_symbolMove (hm : (symbolMove t).Consumes next) : (symbolMove t).takes = true := by
  unfold symbolMove at hm ⊢
  split at hm <;> first | rfl | simp at hm

theorem takes_tokenFactorMove (hm : (tokenFactorMove t).Consumes next) :
    (tokenFactorMove t).takes = true := by
  unfold tokenFactorMove at hm ⊢
  split at hm <;> first | rfl | simp at hm

theorem takes_factorMove (ht : t.any Token.isWord = true) (hm : (factorMove t).Consumes next) :
    (factorMove t).takes = true := by
  unfold factorMove at hm ⊢
  split at hm
  case h_5 => cases ht
  case h_8 => exact takes_symbolMove hm
  all_goals rfl

/-- In the body of a section, words are taken. -/
theorem takes_body (hg : g.isBody = true) (ht : t.any Token.isWord = true)
    (hm : (g.move t).Consumes next) : (g.move t).takes = true := by
  cases g with
  | symbol => exact takes_symbolMove hm
  | tokenFactor => exact takes_tokenFactorMove hm
  | tokenFactors =>
    simp only [move] at hm ⊢
    split at hm
    next hfirst =>
      obtain ⟨goals, hfactor, -⟩ := Move.consumes_followedBy.mp hm
      rw [if_pos hfirst, Move.takes_followedBy]
      exact takes_tokenFactorMove hfactor
    next => simp at hm
  | factors =>
    simp only [move] at hm ⊢
    split at hm
    next hfirst =>
      obtain ⟨goals, hfactor, -⟩ := Move.consumes_followedBy.mp hm
      rw [if_pos hfirst, Move.takes_followedBy]
      exact takes_factorMove ht hfactor
    next => simp at hm
  | simpleSet =>
    simp only [move, simpleSetMove] at hm ⊢
    split at hm <;> first | rfl | simp at hm
  | setOperations =>
    simp only [move] at hm
    split at hm
    next hsign => rcases hsign with rfl | rfl <;> cases ht
    next => simp at hm
  | rangeOption | nestedOption | contextOption | tokenAlternatives | resolverOption
  | alternatives =>
    obtain ⟨rfl, -⟩ := consumes_optionMove.mp hm
    rfl
  | _ => cases hg

/-- In host code, words are skipped. -/
theorem takes_of_code? {code : HostCode} (hg : g.code? = some code)
    (ht : t.any Token.isWord = true) : (g.move t).takes = false := by
  cases g <;> cases hg <;> simp only [move, attributesMove, conditionMove] <;> repeat' split
  all_goals first | rfl | cases ht

/-- **A word is taken where it is part of the notation**, and skipped elsewhere. -/
theorem takes_of_consumes (h : Joined (g :: gs))
    (hstart : g = productionsOption → t = some .productionsKw) (ht : t.any Token.isWord = true)
    (hm : (g.move t).Consumes next) : (g.move t).takes = (spot (g :: gs)).isGrammar t := by
  obtain ⟨hjoins, hgs⟩ := h
  cases g with
  | announce c => simp [move] at hm
  | boundary => simp [move] at hm
  | recovery => exact hjoins.elim
  | require t' =>
    simp only [move] at hm ⊢
    split at hm
    next ht =>
      subst ht
      rw [if_pos rfl, hjoins.grammar]
      rfl
    next => simp at hm
  | request t' =>
    simp only [move] at hm ⊢
    split at hm
    next ht => rw [if_pos ht]; rfl
    next => simp at hm
  | preamble =>
    simp only [move] at hm ⊢
    split at hm
    next => simp at hm
    next hne =>
      rw [if_neg hne]
      exact (congrArg not (bne_iff_ne.mpr hne)).symm
  | globalCode =>
    simp only [move] at hm ⊢
    split at hm
    next => simp at hm
    next hne =>
      rw [if_neg hne]
      exact (congrArg (fun p => !Option.isNone p) (Place.openedBy?_eq_none hne)).symm
  | ignoreCaseOption | charactersOption | tokensOption | commentDeclarations | ignoreSets =>
    obtain ⟨rfl, -⟩ := consumes_optionMove.mp hm
    rw [move, optionMove, if_pos rfl]
    rfl
  | productionsStart =>
    simp only [move] at hm
    split at hm <;> simp at hm
  | productionsOption =>
    obtain rfl := hstart rfl
    rfl
  | charSets | productions =>
    simp only [move] at hm ⊢
    split at hm
    next ht => rw [if_pos ht]; rfl
    next => simp at hm
  | tokenDeclarations s =>
    simp only [move, declarationMove] at hm ⊢
    split at hm <;> first | rfl | simp at hm
  | definitionOption =>
    obtain ⟨rfl, -⟩ := consumes_optionMove.mp hm
    cases ht
  | attributesOption c =>
    simp only [move] at hm
    split at hm <;> first | cases ht | simp at hm
  | actionOption =>
    simp only [move] at hm
    split at hm
    next hopens =>
      subst hopens
      cases ht
    next => simp at hm
  | attributes | dottedAttributes | action | condition => exact takes_of_code? rfl ht
  | simpleSet | setOperations | rangeOption | nestedOption | tokenFactor | tokenFactors
  | contextOption | tokenAlternatives | resolverOption | factors | alternatives | symbol =>
    rw [takes_body rfl ht hm]
    exact (Spot.isGrammar_of_isSection rfl (Place.isSection_of_isBody hjoins.1)).symm

end Goal

namespace Parsing

variable {s : Parsing} {g : Goal} {gs next : List Goal} {heard : List Notification}
  {lexemes read rest : List Lexeme} {stop : Position} {x : Lexeme}

/-- **A consumed lexeme is accepted where reading is.** -/
theorem Located.accepts (h : Located read s) (hg : s.goals = g :: gs)
    (hm : (g.move x.token).Consumes next) : (Spot.start.after read).Accepts x.token := by
  have hjoined := h.joined
  rcases h.agrees with hspot | ⟨-, hopen⟩
  · rw [hg] at hspot hjoined
    rw [hspot]
    exact Goal.accepts_of_consumes hjoined hm
  · exact Spot.accepts_of_isOpen hopen

/-- **A consumed word is taken where reading finds notation.** -/
theorem Located.takes (h : Located read s) (hg : s.goals = g :: gs) (hrest : s.rest = x :: rest)
    (hword : x.token.any Token.isWord = true) (hm : (g.move x.token).Consumes next) :
    (g.move x.token).takes = (Spot.start.after read).isGrammar x.token := by
  obtain ⟨hagrees, hjoined, hstart⟩ := h
  rw [hg] at hagrees hjoined hstart
  have hproductions : g = .productionsOption → x.token = some .productionsKw := by
    rintro rfl
    simpa [lookahead, hrest] using hstart rfl
  have htakes := Goal.takes_of_consumes hjoined hproductions hword hm
  rcases hagrees with hspot | ⟨hbetween, hopen⟩
  · rw [hspot, htakes]
  · -- Between two sections, the word is the keyword of a section, which is notation on both sides.
    obtain ⟨p, hp⟩ := Option.isSome_iff_exists.mp
      (Goal.after_isBetween (by simpa using hbetween) hjoined hproductions hm).2
    rw [htakes, Goal.spot_of_isBetween hbetween, Spot.isGrammar_of_isOpen hopen hp,
      Spot.isGrammar_of_isOpen rfl hp]

/-! ### The whole parse -/

/-- The next lexeme, if the goal takes it. -/
def takes? (s : Parsing) (g : Goal) : Option Lexeme :=
  s.rest.head?.filter fun x => (g.move x.token).takes

/-- **The lexemes that a parse takes**, as parts of the grammar. -/
def taken (s : Parsing) : List Lexeme :=
  match h : s.goals with
  | [] => []
  | g :: gs =>
    have : (s.step g gs).2.potential < s.potential := potential_step_lt s g gs h
    (s.takes? g).toList ++ (s.step g gs).2.taken
termination_by s.potential

theorem takes?_of_still {m : Still} (h : g.meet s.lookahead = .still m) : s.takes? g = none := by
  rw [takes?]
  cases hrest : s.rest with
  | nil => rfl
  | cons x rest =>
    have hm : g.move x.token = .still m := by simpa [lookahead, hrest] using h
    simp [hm, Move.takes]

theorem takes?_of_rest (hrest : s.rest = x :: rest) :
    s.takes? g = if (g.move x.token).takes then some x else none := by
  simp [takes?, hrest, Option.filter]

/-- **The lexemes that are left, and those that are taken of them**: each that is left is accepted
where it stands, and the words that are taken are those of the notation. -/
structure Matches (read rest taken : List Lexeme) : Prop where
  accepts : ∀ p ∈ (Spot.start.after read).annotate rest, p.1.Accepts p.2.token
  words : taken.filter Lexeme.isWord = (Spot.start.after read).words rest

/-- One more lexeme at the beginning. -/
theorem Located.matches_consume {taken : List Lexeme} (h : Located read s) (hg : s.goals = g :: gs)
    (hrest : s.rest = x :: rest) (hm : (g.move x.token).Consumes next)
    (hmatches : Matches (read ++ [x]) rest taken) :
    Matches read s.rest ((s.takes? g).toList ++ taken) := by
  obtain ⟨haccepts, hwords⟩ := hmatches
  rw [Spot.after_concat] at haccepts hwords
  rw [hrest]
  constructor
  · intro p hp
    rcases List.mem_cons.mp hp with rfl | hp
    · exact h.accepts hg hm
    · exact haccepts p hp
  · rw [List.filter_append, hwords, Spot.words_cons, takes?_of_rest hrest]
    cases hword : x.isWord with
    | true =>
      rw [h.takes hg hrest hword hm]
      cases (Spot.start.after read).isGrammar x.token <;> simp [hword]
    | false => cases (g.move x.token).takes <;> simp [hword]

theorem read_eq_concat {read' : List Lexeme} (hrest : s.rest = x :: rest)
    (h : read' ++ rest = read ++ s.rest) : read' = read ++ [x] := by
  rw [hrest, List.append_cons] at h
  exact List.append_cancel_right h

/-- **A parse without an error takes the words of the notation.** The induction is on the run, from
any state that is where reading is. -/
theorem Told.matches_taken (h : Told heard read s) (hs : s.Fresh)
    (hnil : s.run.2.diagnostics = []) : Matches read s.rest s.taken := by
  fun_induction taken s generalizing heard read with
  | case1 s hg =>
    have hspot := h.after_of_goals_eq_nil hg
    refine ⟨?_, ?_⟩
    · rw [hspot]
      exact fun p hp => Spot.accepts_of_mem_annotate_after hp
    · rw [hspot, Spot.words_after]
      rfl
  | case2 s g gs hg this ih =>
    have hrun : (s.step g gs).2.run.2.diagnostics = [] := by
      rwa [run_of_goals_cons hg] at hnil
    have hmid : (s.step g gs).2.diagnostics = [] := by
      have hprefix := (reaches_run (s.step g gs).2).isPrefix_diagnostics
      rwa [hrun, List.prefix_nil] at hprefix
    obtain ⟨hturn, hfresh⟩ := hs.cleanTurn (turn_step s g gs) hmid
    obtain ⟨read', hread, htold⟩ := h.cleanTurn hg hturn
    have hmatches := ih htold hfresh hrun
    generalize (s.step g gs).1 = n, (s.step g gs).2 = s' at hturn hread hmatches
    cases hturn with
    | pass hm | tell c hm =>
      obtain rfl := List.append_cancel_right hread
      rw [takes?_of_still hm]
      exact hmatches
    | take x rest before next hrest hm =>
      obtain rfl := read_eq_concat hrest hread
      exact h.matches_consume hg hrest (by rw [hm]; exact Move.consumes_take.mpr rfl) hmatches
    | skip x rest next hrest hm =>
      obtain rfl := read_eq_concat hrest hread
      exact h.matches_consume hg hrest (by rw [hm]; exact Move.consumes_skip.mpr rfl) hmatches

end Parsing

namespace ParseResult

/-- **The lexemes of a source that its parse takes**, as parts of the grammar. -/
def taken (source : Text) : List Lexeme :=
  (Parsing.start (Lexeme.scan source) ((LineIndex.ofText source).position source.size)).taken

variable {source : Text}

theorem matches_taken (hok : (ofSource source).isOk = true) :
    Parsing.Matches [] (Lexeme.scan source) (taken source) :=
  (Parsing.told_start _ _).matches_taken ⟨rfl, Nat.le_refl _⟩ (List.isEmpty_iff.mp hok)

/-- **In a source without an error, the parser takes the words of the notation** and no others. -/
theorem filter_taken (hok : (ofSource source).isOk = true) :
    (taken source).filter Lexeme.isWord = Spot.start.words (Lexeme.scan source) :=
  (matches_taken hok).words

/-- **In a source without an error, every lexeme is accepted at its spot.** -/
theorem accepts_of_isOk (hok : (ofSource source).isOk = true) :
    ∀ p ∈ Spot.start.annotate (Lexeme.scan source), p.1.Accepts p.2.token :=
  (matches_taken hok).accepts

end ParseResult

end GrammarWorkbench
