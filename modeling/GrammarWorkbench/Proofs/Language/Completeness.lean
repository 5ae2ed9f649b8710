import GrammarWorkbench.Proofs.Language.Rules
import GrammarWorkbench.Proofs.Parse.Clean

/-!
# Every grammar is parsed without an error

The other direction: what the rules derive, the goals meet. Each statement has the same shape. A
word `w` of some part stands before `rest`, the goals `gs` can be met from `rest`, and `rest` begins
with a token that may follow the part; then the goals of the part followed by `gs` can be met from
`w ++ rest`. What comes after is thus quantified in every statement, and the proofs are put together
from the end of a grammar to its beginning.

**Why the first token suffices.** A goal that may be dropped, or that is repeated, looks at the next
token only. So it has to be seen that this token never belongs to the part when the word is over.
This is what the lists `GrammarWorkbench.Phrase.tokenFollow` and
`GrammarWorkbench.Phrase.expressionFollow` are for: no token of them starts what may be left out
before it.

Token expressions and the right sides of productions contain themselves in brackets. The induction
is on the length of their words.
-/

namespace GrammarWorkbench

namespace Phrase

variable {p q : Phrase} {u v w ts rest : List (Option Token)} {l l' : List Token} {t : Token}

/-- Induction on a repetition. -/
theorem many_induction {P : List (Option Token) → Prop} (hnil : P [])
    (hcons : ∀ u v, Derives p u → Derives (many p) v → P v → P (u ++ v))
    (h : Derives (many p) w) : P w := by
  generalize hq : many p = q at h
  induction h with
  | nil => exact hnil
  | @cons p' u v hu hv _ ih =>
    obtain rfl : p = p' := by simpa using hq
    exact hcons u v hu hv (ih hq)
  | _ => cases hq

/-! ### The first token -/

/-- The tokens begin with a token of the list. -/
def Starts (l : List Token) (ts : List (Option Token)) : Prop :=
  ∃ t ∈ l, ts.head? = some (some t)

theorem starts_cons (h : t ∈ l) : Starts l (some t :: ts) := ⟨t, h, rfl⟩

theorem Starts.mono (h : Starts l ts) (hl : l ⊆ l') : Starts l' ts := by
  obtain ⟨t, ht, hts⟩ := h
  exact ⟨t, hl ht, hts⟩

theorem Starts.valid (h : Starts l ts) : ts.head? ≠ some none := by
  obtain ⟨t, -, hts⟩ := h
  rw [hts]
  simp

theorem Starts.append (h : Starts l u) : Starts l (u ++ v) := by
  obtain ⟨t, ht, hu⟩ := h
  cases u with
  | nil => simp at hu
  | cons x u => exact ⟨t, ht, hu⟩

/-- A word that may be absent, and what comes after it. -/
theorem starts_append (h : w = [] ∨ Starts l w) (hrest : Starts l' rest) :
    Starts (l ++ l') (w ++ rest) := by
  rcases h with rfl | h
  · exact hrest.mono (List.subset_append_right l l')
  · exact (h.append (v := rest)).mono (List.subset_append_left l l')

/-- The tokens with which a factor of a token expression starts. -/
def tokenFactorStarts : List Token :=
  [.ident, .string, .char, .leftParen, .leftBracket, .leftBrace]

/-- The tokens with which a factor of a production starts. -/
def factorStarts : List Token :=
  tokenFactorStarts ++ [.weakKw, .parenPeriod, .anyKw, .syncKw]

/-- The tokens that may follow a token expression. -/
def tokenFollow : List Token :=
  [.period, .rightParen, .rightBracket, .rightBrace, .toKw, .nestedKw, .commentsKw, .ignoreKw,
   .productionsKw]

/-- The tokens that may follow the right side of a production or the inside of a group. -/
def expressionFollow : List Token :=
  [.period, .rightParen, .rightBracket, .rightBrace]

theorem startsTokenFactor_of_mem : ∀ t ∈ tokenFactorStarts, t.startsTokenFactor = true := by decide

theorem startsFactor_of_mem : ∀ t ∈ factorStarts, t.startsFactor = true := by decide

theorem starts_tokenFactor (h : Derives (part .tokenFactor) w) : Starts tokenFactorStarts w := by
  rcases derives_or.mp (derives_part.mp h) with h | h
  · obtain ⟨t, ht, rfl⟩ := derives_symbol.mp h
    refine starts_cons ?_
    cases t <;> simp_all [Token.isSymbol, tokenFactorStarts]
  · obtain ⟨kind, h⟩ := derives_inBrackets.mp h
    obtain ⟨u, rfl, -⟩ := derives_bracketed.mp h
    refine starts_cons ?_
    cases kind <;> decide

theorem starts_tokenTerm (h : Derives (part .tokenTerm) w) : Starts tokenFactorStarts w := by
  obtain ⟨u, v, rfl, hu, -⟩ := derives_append.mp (derives_part.mp h)
  obtain ⟨a, b, rfl, ha, -⟩ := derives_append.mp hu
  exact (starts_tokenFactor ha).append.append

theorem starts_tokenExpression (h : Derives (part .tokenExpression) w) :
    Starts tokenFactorStarts w := by
  obtain ⟨u, v, rfl, hu, -⟩ := derives_append.mp (derives_part.mp h)
  exact (starts_tokenTerm hu).append

theorem starts_action (h : Derives (part .action) w) : Starts [.parenPeriod] w := by
  obtain ⟨u, v, rfl, hu, -⟩ := derives_append.mp (derives_part.mp h)
  obtain ⟨a, b, rfl, ha, -⟩ := derives_append.mp hu
  obtain rfl := derives_tok.mp ha
  exact starts_cons (by simp)

/-- The kinds of factors. -/
theorem derives_factor : Derives (part .factor) w ↔
    Derives (opt (tok .weakKw) ++ symbol ++ opt (part .attributes)) w ∨
      (∃ kind, Derives (bracketed kind (part .expression)) w) ∨ Derives (part .action) w ∨
      w = [some .anyKw] ∨ w = [some .syncKw] := by
  rw [derives_part]
  simp only [Part.rule, derives_or, derives_inBrackets, derives_tok, or_assoc]

theorem starts_factor (h : Derives (part .factor) w) : Starts factorStarts w := by
  rcases derives_factor.mp h with h | ⟨kind, h⟩ | h | rfl | rfl
  · obtain ⟨u, v, rfl, hu, -⟩ := derives_append.mp h
    obtain ⟨a, b, rfl, ha, hb⟩ := derives_append.mp hu
    obtain ⟨t, ht, rfl⟩ := derives_symbol.mp hb
    rcases derives_opt.mp ha with rfl | ha
    · refine starts_cons ?_
      cases t <;> simp_all [Token.isSymbol, factorStarts, tokenFactorStarts]
    · obtain rfl := derives_tok.mp ha
      exact starts_cons (by decide)
  · obtain ⟨u, rfl, -⟩ := derives_bracketed.mp h
    refine starts_cons ?_
    cases kind <;> decide
  · exact (starts_action h).mono (by decide)
  · exact starts_cons (by decide)
  · exact starts_cons (by decide)

/-- A repetition begins like one of its pieces, if it is not empty. -/
theorem starts_many (hp : ∀ {w}, Derives p w → Starts l w) (h : Derives (many p) w) :
    w = [] ∨ Starts l w := by
  rcases derives_many.mp h with rfl | ⟨u, v, rfl, hu, -⟩
  · exact Or.inl rfl
  · exact Or.inr (hp hu).append

theorem starts_opt (hp : ∀ {w}, Derives p w → Starts l w) (h : Derives (opt p) w) :
    w = [] ∨ Starts l w := by
  rcases derives_opt.mp h with rfl | h
  · exact Or.inl rfl
  · exact Or.inr (hp h)

theorem starts_tok_append (h : Derives (tok t ++ q) w) : Starts [t] w := by
  obtain ⟨u, v, rfl, hu, -⟩ := derives_append.mp h
  obtain rfl := derives_tok.mp hu
  exact starts_cons (by simp)

theorem starts_charSet (h : Derives (part .charSet) w) : Starts [.ident] w := by
  obtain ⟨u, v, rfl, hu, -⟩ := derives_append.mp (derives_part.mp h)
  obtain ⟨a, b, rfl, ha, -⟩ := derives_append.mp hu
  exact (starts_tok_append ha).append.append

theorem starts_tokenDeclaration (h : Derives (part .tokenDeclaration) w) :
    Starts [.ident, .string, .char] w := by
  obtain ⟨u, v, rfl, hu, -⟩ := derives_append.mp (derives_part.mp h)
  obtain ⟨a, b, rfl, ha, -⟩ := derives_append.mp hu
  obtain ⟨t, ht, rfl⟩ := derives_symbol.mp ha
  refine starts_cons ?_
  cases t <;> first | decide | simp [Token.isSymbol] at ht

theorem starts_comment (h : Derives (part .comment) w) : Starts [.commentsKw] w := by
  rw [derives_part] at h
  simp only [Part.rule, derives_append, derives_tok] at h
  obtain ⟨_, _, rfl, ⟨_, _, rfl, ⟨_, _, rfl, ⟨_, _, rfl, ⟨_, _, rfl, rfl, rfl⟩, -⟩, -⟩, -⟩, -⟩ := h
  exact starts_cons (by simp)

theorem starts_production (h : Derives (part .production) w) : Starts [.ident] w := by
  rw [derives_part] at h
  simp only [Part.rule, derives_append, derives_tok] at h
  obtain ⟨_, _, rfl, ⟨_, _, rfl, ⟨_, _, rfl, ⟨_, _, rfl, ⟨_, _, rfl, rfl, -⟩, -⟩, -⟩, -⟩, -⟩ := h
  exact starts_cons (by simp)

theorem starts_attributes (h : Derives (part .attributes) w) : Starts [.less, .lessPeriod] w := by
  rcases derives_or.mp (derives_part.mp h) with h | h <;>
    obtain ⟨x, y, rfl, hx, -⟩ := derives_append.mp h <;>
    exact ((starts_tok_append hx).mono (by decide)).append

theorem starts_term (h : Derives (part .term) w) : w = [] ∨ Starts (.ifKw :: factorStarts) w := by
  obtain ⟨a, b, rfl, ha, hb⟩ := derives_append.mp (derives_part.mp h)
  rcases starts_opt starts_tok_append ha with rfl | ha
  · rcases starts_many starts_factor hb with rfl | hb
    · exact Or.inl rfl
    · exact Or.inr (hb.mono (List.subset_cons_self _ _))
  · exact Or.inr (ha.append.mono (by simp))

theorem starts_expression (h : Derives (part .expression) w) :
    w = [] ∨ Starts (.ifKw :: factorStarts ++ [.bar]) w := by
  obtain ⟨a, b, rfl, ha, hb⟩ := derives_append.mp (derives_part.mp h)
  rcases starts_term ha with rfl | ha
  · rcases starts_many starts_tok_append hb with rfl | hb
    · exact Or.inl rfl
    · exact Or.inr (hb.mono (List.subset_append_right _ _))
  · exact Or.inr (ha.append.mono (List.subset_append_left _ _))

end Phrase

namespace Goal

open Phrase

variable {g : Goal} {gs next : List Goal} {u v w ts rest : List (Option Token)} {k t : Token}

/-! ### Meeting one goal -/

theorem Clean.announce (c : Checkpoint) (h : Clean gs ts) : Clean (announce c :: gs) ts := by
  refine .tell (c := c) ?_ h
  cases ts.head? <;> rfl

theorem Clean.boundary (h : Clean gs ts) : Clean (boundary :: gs) ts := by
  refine .pass ?_ h
  cases ts.head? <;> rfl

theorem Clean.require (h : Clean gs ts) (hts : ts.head? ≠ some none) :
    Clean (require k :: gs) (some k :: ts) :=
  .take none [] (by simp [move]) hts h

/-- An optional part is there: its first token is taken. -/
theorem Clean.enter (hg : ∀ t, g.move t = optionMove k next t) (h : Clean (next ++ gs) ts)
    (hts : ts.head? ≠ some none) : Clean (g :: gs) (some k :: ts) :=
  .take none next (by rw [hg, optionMove, if_pos rfl]) hts h

/-- An optional part is not there: another token follows. -/
theorem Clean.omit {l : List Token} (hg : ∀ t ∈ l, g.move (some t) = .pass) (h : Clean gs ts)
    (hts : Starts l ts) : Clean (g :: gs) ts := by
  obtain ⟨t, ht, hhead⟩ := hts
  refine .pass ?_ h
  rw [hhead]
  exact hg t ht

theorem move_optionMove_of_not_mem {l : List Token} (hg : ∀ t, g.move t = optionMove k next t)
    (hk : k ∉ l) : ∀ t ∈ l, g.move (some t) = .pass := by
  intro t ht
  rw [hg, optionMove, if_neg]
  intro h
  exact hk (Option.some.inj h ▸ ht)

/-! ### Host code -/

/-- A goal that stays while it skips the lexemes of a class. -/
theorem clean_text {f : Option Token → Bool} (hg : ∀ t, f t = true → g.move t = .skip [g])
    (hw : Derives (many (one f)) w) (h : Clean (g :: gs) rest) : Clean (g :: gs) (w ++ rest) := by
  refine many_induction (P := fun w => Clean (g :: gs) (w ++ rest)) h ?_ hw
  intro u v hu _ ih
  obtain ⟨t, ht, rfl⟩ := derives_one.mp hu
  exact .skip _ (hg t ht) ih

/-- Text with balanced brackets, read by goals that count the open ones. The induction is on the
length of the text, since brackets may stand inside brackets. -/
theorem clean_balanced {text : Part} {o close : Token} {but : List Token} {G : Nat → Goal}
    (htext : text.rule = many (lexemeBut but ||| (tok o ++ part text ++ tok close)))
    (hskip : ∀ d t, (!t.any but.contains) = true → (G d).move t = .skip [G d])
    (hopen : ∀ d, (G d).move (some o) = .skip [G (d + 1)])
    (hclose : ∀ d, (G (d + 1)).move (some close) = .skip [G d]) :
    ∀ (n : Nat) (w : List (Option Token)), w.length ≤ n → Derives (part text) w →
      ∀ (d : Nat) (gs : List Goal) (rest : List (Option Token)),
        Clean (G d :: gs) rest → Clean (G d :: gs) (w ++ rest) := by
  intro n
  induction n with
  | zero =>
    intro w hn _ d gs rest h
    obtain rfl : w = [] := List.length_eq_zero_iff.mp (Nat.le_zero.mp hn)
    exact h
  | succ n ih =>
    intro w hn hw d gs rest h
    rcases derives_many.mp (htext ▸ derives_part.mp hw) with rfl | ⟨u, v, rfl, hu, hv⟩
    · exact h
    · have hv' : Derives (part text) v := derives_part.mpr (htext ▸ hv)
      rcases derives_or.mp hu with hu | hu
      · obtain ⟨t, ht, rfl⟩ := derives_one.mp hu
        refine .skip _ (hskip d t ht) (ih v ?_ hv' d gs rest h)
        simpa using hn
      · obtain ⟨a, b, rfl, ha, hb⟩ := derives_append.mp hu
        obtain ⟨c, e, rfl, hc, he⟩ := derives_append.mp ha
        obtain rfl := derives_tok.mp hb
        obtain rfl := derives_tok.mp hc
        have hlen : e.length + v.length + 1 ≤ n := by
          simp only [List.length_append, List.length_cons, List.length_nil] at hn
          omega
        have hrest : Clean (G (d + 1) :: gs) (some close :: (v ++ rest)) :=
          .skip _ (hclose d) (ih v (by omega) hv' d gs rest h)
        have hinner := ih e (by omega) he (d + 1) gs _ hrest
        simpa using Clean.skip _ (hopen d) hinner

theorem clean_angleText (hw : Derives (part .angleText) w) (h : Clean gs rest)
    (hrest : rest.head? ≠ some none) :
    Clean (attributes 0 :: gs) (w ++ some .greater :: rest) := by
  refine clean_balanced (G := attributes) rfl ?_ (fun _ => rfl) (fun _ => rfl) w.length w
    (Nat.le_refl _) hw 0 gs _ (.take none [] rfl hrest h)
  intro d t ht
  rcases t with _ | t
  · rfl
  · cases t <;> first | rfl | simp at ht

theorem clean_parenText (hw : Derives (part .parenText) w) (h : Clean gs rest)
    (hrest : rest.head? ≠ some none) :
    Clean (condition 0 :: gs) (w ++ some .rightParen :: rest) := by
  refine clean_balanced (G := condition) rfl ?_ (fun _ => rfl) (fun _ => rfl) w.length w
    (Nat.le_refl _) hw 0 gs _ (.take none [] rfl hrest h)
  intro d t ht
  rcases t with _ | t
  · rfl
  · cases t <;> first | rfl | simp at ht

/-- The rest of an action. -/
theorem clean_action (hw : Derives (part .action) w) (h : Clean gs rest)
    (hrest : rest.head? ≠ some none) :
    ∃ v, w = some .parenPeriod :: v ∧ Clean (action :: gs) (v ++ rest) := by
  obtain ⟨a, b, rfl, ha, hb⟩ := derives_append.mp (derives_part.mp hw)
  obtain ⟨c, e, rfl, hc, he⟩ := derives_append.mp ha
  obtain rfl := derives_tok.mp hb
  obtain rfl := derives_tok.mp hc
  refine ⟨e ++ [some Token.periodParen], by simp, ?_⟩
  have hclose : Clean (action :: gs) (some .periodParen :: rest) :=
    .take none [] rfl hrest h
  have htext : Clean (action :: gs) (e ++ some .periodParen :: rest) := by
    refine clean_text ?_ he hclose
    intro t ht
    rcases t with _ | t
    · rfl
    · cases t <;> first | rfl | simp at ht
  simpa using htext

/-- An optional action before a token that opens none. -/
theorem clean_actionOption {l : List Token} (hl : .parenPeriod ∉ l)
    (hw : Derives (opt (part .action)) w) (h : Clean gs rest) (hrest : Starts l rest) :
    Clean (actionOption :: gs) (w ++ rest) := by
  rcases derives_opt.mp hw with rfl | hw
  · refine Clean.omit ?_ h hrest
    intro t ht
    have : t ≠ .parenPeriod := fun he => hl (he ▸ ht)
    simp [move, this]
  · obtain ⟨v, rfl, hv⟩ := clean_action hw h hrest.valid
    exact .skip [.announce .semanticText, action] rfl (hv.announce _)

/-- Attributes, by the two marks that open them. -/
theorem clean_attributes {c : Checkpoint} (hw : Derives (part .attributes) w) (h : Clean gs rest)
    (hrest : rest.head? ≠ some none) : Clean (attributesOption c :: gs) (w ++ rest) := by
  rcases derives_or.mp (derives_part.mp hw) with hw | hw
  · obtain ⟨a, b, rfl, ha, hb⟩ := derives_append.mp hw
    obtain ⟨d, e, rfl, hd, he⟩ := derives_append.mp ha
    obtain rfl := derives_tok.mp hb
    obtain rfl := derives_tok.mp hd
    have htext := clean_angleText he (h.announce c) hrest
    have hskip : Clean (attributesOption c :: gs) (some .less :: (e ++ some .greater :: rest)) :=
      .skip [.announce .semanticText, attributes 0, .announce c] rfl (htext.announce _)
    simpa using hskip
  · obtain ⟨a, b, rfl, ha, hb⟩ := derives_append.mp hw
    obtain ⟨d, e, rfl, hd, he⟩ := derives_append.mp ha
    obtain rfl := derives_tok.mp hb
    obtain rfl := derives_tok.mp hd
    have hclose : Clean (dottedAttributes :: .announce c :: gs) (some .periodGreater :: rest) :=
      .take none [] rfl hrest (h.announce c)
    have htext : Clean (dottedAttributes :: .announce c :: gs)
        (e ++ some .periodGreater :: rest) := by
      refine clean_text ?_ he hclose
      intro t ht
      rcases t with _ | t
      · rfl
      · cases t <;> first | rfl | simp at ht
    have hskip : Clean (attributesOption c :: gs)
        (some .lessPeriod :: (e ++ some .periodGreater :: rest)) :=
      .skip [.announce .semanticText, dottedAttributes, .announce c] rfl
        (htext.announce _)
    simpa using hskip

/-- Optional attributes before a token that opens none. -/
theorem clean_attributesOption {c : Checkpoint} {l : List Token}
    (hl : .less ∉ l ∧ .lessPeriod ∉ l) (hw : Derives (opt (part .attributes)) w)
    (h : Clean gs rest) (hrest : Starts l rest) :
    Clean (attributesOption c :: gs) (w ++ rest) := by
  rcases derives_opt.mp hw with rfl | hw
  · refine Clean.omit ?_ h hrest
    intro t ht
    cases t <;> first | rfl | exact absurd ht hl.1 | exact absurd ht hl.2
  · exact clean_attributes hw h hrest.valid

/-! ### Token expressions -/

/-- A word is met as a token expression, whatever comes after it. -/
def MeetsTokenExpression (w : List (Option Token)) : Prop :=
  ∀ (gs : List Goal) (rest : List (Option Token)), Clean gs rest → Starts tokenFollow rest →
    Clean (tokenExpression ++ gs) (w ++ rest)

/-- The inside of a group of a token expression, if it is met as a token expression. -/
theorem clean_tokenGroup (kind : Brace) (hmeets : MeetsTokenExpression u) (h : Clean gs rest)
    (hrest : rest.head? ≠ some none) :
    Clean (tokenGroup kind ++ gs) (u ++ some kind.closer :: rest) := by
  have hafter : Clean ([Goal.require kind.closer, .announce (.tokenClosed kind)] ++ gs)
      (some kind.closer :: rest) := (h.announce _).require hrest
  have hfollow : Starts tokenFollow (some kind.closer :: rest) :=
    starts_cons (by cases kind <;> decide)
  simpa [tokenGroup] using (hmeets _ _ hafter hfollow).announce (.tokenOpened kind)

section TokenTerms

variable {n : Nat} (ih : ∀ w, w.length < n → Derives (part .tokenExpression) w →
  MeetsTokenExpression w)

include ih

/-- A factor of a token expression: the table takes its first token, and the goals in its place meet
the rest of the factor. -/
theorem clean_tokenFactor (hn : w.length ≤ n) (hw : Derives (part .tokenFactor) w)
    (h : Clean gs rest) (hrest : rest.head? ≠ some none) :
    ∃ t v before next, w = some t :: v ∧ t ∈ tokenFactorStarts ∧
      tokenFactorMove (some t) = .take before next ∧ (v ++ rest).head? ≠ some none ∧
      Clean (next ++ gs) (v ++ rest) := by
  obtain ⟨t, ht, hhead⟩ := starts_tokenFactor hw
  rcases derives_or.mp (derives_part.mp hw) with hw | hw
  · obtain ⟨k, hk, rfl⟩ := derives_symbol.mp hw
    obtain rfl : k = t := by simpa using hhead
    have hmove : ∃ before,
        tokenFactorMove (some k) = .take before [.announce .tokenExpression] := by
      cases k <;> first | exact ⟨_, rfl⟩ | simp [Token.isSymbol] at hk
    obtain ⟨before, hmove⟩ := hmove
    exact ⟨k, [], before, _, rfl, ht, hmove, hrest, h.announce _⟩
  · obtain ⟨kind, hw⟩ := derives_inBrackets.mp hw
    obtain ⟨u, rfl, hu⟩ := derives_bracketed.mp hw
    obtain rfl : kind.opener = t := by simpa using hhead
    have hmove : tokenFactorMove (some kind.opener) = .take none (tokenGroup kind) := by
      cases kind <;> rfl
    have hlen : u.length < n := by
      simp only [List.length_cons, List.length_append, List.length_nil] at hn
      omega
    refine ⟨kind.opener, u ++ [some kind.closer], none, _, rfl, ht, hmove, ?_, ?_⟩
    · simpa using ((starts_tokenExpression hu).append (v := some kind.closer :: rest)).valid
    · simpa using clean_tokenGroup kind (ih u hlen hu) h hrest

theorem clean_tokenFactors (hn : w.length ≤ n) (hw : Derives (many (part .tokenFactor)) w)
    (h : Clean gs rest) (hrest : Starts (.contextKw :: .bar :: tokenFollow) rest) :
    Clean (tokenFactors :: gs) (w ++ rest) := by
  revert hn
  refine many_induction
    (P := fun w => w.length ≤ n → Clean (tokenFactors :: gs) (w ++ rest)) ?_ ?_ hw
  · intro _
    refine Clean.omit ?_ h hrest
    decide
  · intro u v hu hv ihv hn
    rw [List.length_append] at hn
    have hvalid : (v ++ rest).head? ≠ some none :=
      (starts_append (starts_many starts_tokenFactor hv) hrest).valid
    obtain ⟨t, x, before, next, rfl, ht, hmove, hx, hclean⟩ :=
      clean_tokenFactor ih (by omega) hu (ihv (by omega)) hvalid
    have hstart := startsTokenFactor_of_mem t ht
    rw [List.append_assoc]
    refine .take before (next ++ [tokenFactors]) ?_ hx (by simpa using hclean)
    simp [move, hstart, hmove, Move.followedBy]

theorem clean_contextOption (hn : w.length ≤ n)
    (hw : Derives (opt (tok .contextKw ++ bracketed .paren (part .tokenExpression))) w)
    (h : Clean gs rest) (hrest : Starts (.bar :: tokenFollow) rest) :
    Clean (contextOption :: gs) (w ++ rest) := by
  rcases derives_opt.mp hw with rfl | hw
  · exact Clean.omit (move_optionMove_of_not_mem (fun _ => rfl) (by decide)) h hrest
  · obtain ⟨a, b, rfl, ha, hb⟩ := derives_append.mp hw
    obtain ⟨u, rfl, hu⟩ := derives_bracketed.mp hb
    obtain rfl := derives_tok.mp ha
    have hlen : u.length < n := by
      simp only [List.length_cons, List.length_append, List.length_nil] at hn
      omega
    have hgroup := clean_tokenGroup .paren (ih u hlen hu) h hrest.valid
    have hvalid := ((starts_tokenExpression hu).append (v := some .rightParen :: rest)).valid
    have hopen : Clean (.require .leftParen :: (tokenGroup .paren ++ gs))
        (some .leftParen :: (u ++ some .rightParen :: rest)) := hgroup.require hvalid
    have henter : Clean (contextOption :: gs)
        (some .contextKw :: some .leftParen :: (u ++ some .rightParen :: rest)) :=
      Clean.enter (fun _ => rfl) hopen (by simp)
    simpa [Brace.opener, Brace.closer] using henter

theorem clean_tokenTerm (hn : w.length ≤ n) (hw : Derives (part .tokenTerm) w) (h : Clean gs rest)
    (hrest : Starts (.bar :: tokenFollow) rest) :
    Clean (tokenFactor :: tokenFactors :: contextOption :: gs) (w ++ rest) := by
  obtain ⟨ab, c, rfl, hab, hc⟩ := derives_append.mp (derives_part.mp hw)
  obtain ⟨a, b, rfl, ha, hb⟩ := derives_append.mp hab
  simp only [List.length_append] at hn
  have hcontext := clean_contextOption ih (by omega) hc h hrest
  have hstarts : Starts (.contextKw :: .bar :: tokenFollow) (c ++ rest) :=
    starts_append (starts_opt starts_tok_append hc) hrest
  have hfactors := clean_tokenFactors ih (by omega) hb hcontext hstarts
  have hvalid := (starts_append (starts_many starts_tokenFactor hb) hstarts).valid
  obtain ⟨t, x, before, next, rfl, -, hmove, hx, hclean⟩ :=
    clean_tokenFactor ih (by omega) ha hfactors hvalid
  simpa using Clean.take (g := tokenFactor) _ _ hmove hx hclean

theorem clean_tokenAlternatives (hn : w.length ≤ n)
    (hw : Derives (many (tok .bar ++ part .tokenTerm)) w) (h : Clean gs rest)
    (hrest : Starts tokenFollow rest) : Clean (tokenAlternatives :: gs) (w ++ rest) := by
  revert hn
  refine many_induction
    (P := fun w => w.length ≤ n → Clean (tokenAlternatives :: gs) (w ++ rest)) ?_ ?_ hw
  · intro _
    exact Clean.omit (move_optionMove_of_not_mem (fun _ => rfl) (by decide)) h hrest
  · intro u v hu hv ihv hn
    obtain ⟨a, b, rfl, ha, hb⟩ := derives_append.mp hu
    obtain rfl := derives_tok.mp ha
    simp only [List.length_append, List.length_cons, List.length_nil] at hn
    have hstarts : Starts (.bar :: tokenFollow) (v ++ rest) :=
      starts_append (starts_many starts_tok_append hv) hrest
    have hterm := clean_tokenTerm ih (by omega) hb (ihv (by omega)) hstarts
    have hvalid := ((starts_tokenTerm hb).append (v := v ++ rest)).valid
    have henter : Clean (tokenAlternatives :: gs) (some .bar :: (b ++ (v ++ rest))) :=
      Clean.enter (fun _ => rfl) (hterm.announce .tokenExpression) hvalid
    simpa using henter

end TokenTerms

/-- **Every token expression is met.** -/
theorem meetsTokenExpression (hw : Derives (part .tokenExpression) w) : MeetsTokenExpression w := by
  have hall : ∀ (n : Nat) (w : List (Option Token)), w.length < n →
      Derives (part .tokenExpression) w → MeetsTokenExpression w := by
    intro n
    induction n with
    | zero => exact fun w hn => absurd hn (Nat.not_lt_zero _)
    | succ n ih =>
      intro w hn hw gs rest h hrest
      obtain ⟨a, b, rfl, ha, hb⟩ := derives_append.mp (derives_part.mp hw)
      simp only [List.length_append] at hn
      have halternatives := clean_tokenAlternatives ih (by omega) hb h hrest
      have hstarts : Starts (.bar :: tokenFollow) (b ++ rest) :=
        starts_append (starts_many starts_tok_append hb) hrest
      simpa [tokenExpression] using clean_tokenTerm ih (by omega) ha halternatives hstarts
  exact hall _ w (Nat.lt_succ_self _) hw

/-! ### The right sides of productions -/

/-- A word is met as the right side of a production, whatever comes after it. -/
def MeetsExpression (w : List (Option Token)) : Prop :=
  ∀ (gs : List Goal) (rest : List (Option Token)), Clean gs rest → Starts expressionFollow rest →
    Clean (expression ++ gs) (w ++ rest)

/-- A name or a literal with its attributes. -/
theorem clean_symbol (hw : Derives (Phrase.symbol ++ opt (part .attributes)) w) (h : Clean gs rest)
    (hrest : Starts (factorStarts ++ .bar :: expressionFollow) rest) :
    ∃ t v before next, w = some t :: v ∧ t.isSymbol = true ∧
      symbolMove (some t) = .take before next ∧ (v ++ rest).head? ≠ some none ∧
      Clean (next ++ gs) (v ++ rest) := by
  obtain ⟨a, v, rfl, ha, hv⟩ := derives_append.mp hw
  obtain ⟨t, ht, rfl⟩ := derives_symbol.mp ha
  have hmove : ∃ before, symbolMove (some t) =
      .take before [.announce .afterSymbol, attributesOption .afterFactor] := by
    cases t <;> first | exact ⟨_, rfl⟩ | simp [Token.isSymbol] at ht
  obtain ⟨before, hmove⟩ := hmove
  refine ⟨t, v, before, _, rfl, ht, hmove, ?_, ?_⟩
  · exact (starts_append (starts_opt starts_attributes hv) hrest).valid
  · exact (clean_attributesOption (by decide) hv h hrest).announce _

/-- A condition does not begin with an invalid lexeme, and its parentheses are balanced. -/
theorem derives_condition (rest : List (Option Token)) (h : Derives (part .condition) w) :
    Derives (part .parenText) w ∧ (w ++ some .rightParen :: rest).head? ≠ some none := by
  rcases derives_opt.mp (derives_part.mp h) with rfl | h
  · exact ⟨.part .nil, by simp⟩
  · obtain ⟨a, b, rfl, ha, hb⟩ := derives_append.mp h
    rcases derives_or.mp ha with ha | ha
    · obtain ⟨t, ht, rfl⟩ := derives_one.mp ha
      cases t with
      | none => simp at ht
      | some t =>
        refine ⟨.part (.cons (.left (.one ?_)) (derives_part.mp hb)), by simp⟩
        simpa using ht
    · refine ⟨.part (.cons (.right ha) (derives_part.mp hb)), ?_⟩
      obtain ⟨u, rfl, -⟩ := derives_bracketed.mp ha
      simp

theorem clean_resolverOption
    (hw : Derives (opt (tok .ifKw ++ bracketed .paren (part .condition))) w) (h : Clean gs rest)
    (hrest : Starts (factorStarts ++ .bar :: expressionFollow) rest) :
    Clean (resolverOption :: gs) (w ++ rest) := by
  rcases derives_opt.mp hw with rfl | hw
  · exact Clean.omit (move_optionMove_of_not_mem (fun _ => rfl) (by decide)) h hrest
  · obtain ⟨a, b, rfl, ha, hb⟩ := derives_append.mp hw
    obtain ⟨u, rfl, hu⟩ := derives_bracketed.mp hb
    obtain rfl := derives_tok.mp ha
    obtain ⟨htext, hvalid⟩ := derives_condition rest hu
    have hcond := clean_parenText htext (h.announce .expressionStart) hrest.valid
    have hopen : Clean (.require .leftParen :: .announce .resolverCondition :: condition 0 ::
        .announce .expressionStart :: gs) (some .leftParen :: (u ++ some .rightParen :: rest)) :=
      (hcond.announce _).require hvalid
    have henter : Clean (resolverOption :: gs)
        (some .ifKw :: some .leftParen :: (u ++ some .rightParen :: rest)) :=
      Clean.enter (fun _ => rfl) (hopen.announce .resolverKeyword) (by simp)
    simpa [Brace.opener, Brace.closer] using henter

section Terms

variable {n : Nat} (ih : ∀ w, w.length < n → Derives (part .expression) w → MeetsExpression w)

include ih

/-- The inside of a group of a production. -/
theorem clean_group {kind : Brace} (hn : u.length < n) (hu : Derives (part .expression) u)
    (h : Clean gs rest) (hrest : rest.head? ≠ some none) :
    Clean (group kind ++ gs) (u ++ some kind.closer :: rest) := by
  have hafter : Clean ([Goal.require kind.closer, .announce (.groupClosed kind)] ++ gs)
      (some kind.closer :: rest) := (h.announce _).require hrest
  have hfollow : Starts expressionFollow (some kind.closer :: rest) :=
    starts_cons (by cases kind <;> decide)
  simpa [group] using (ih u hn hu _ _ hafter hfollow).announce (.groupOpened kind)

/-- A factor of a production: the table consumes its first token, and the goals in its place meet
the rest of the factor. -/
theorem clean_factor (hn : w.length ≤ n) (hw : Derives (part .factor) w) (h : Clean gs rest)
    (hrest : Starts (factorStarts ++ .bar :: expressionFollow) rest) :
    ∃ t v, w = some t :: v ∧ t ∈ factorStarts ∧
      ((∃ before next, factorMove (some t) = .take before next ∧ (v ++ rest).head? ≠ some none ∧
          Clean (next ++ gs) (v ++ rest)) ∨
        ∃ next, factorMove (some t) = .skip next ∧ Clean (next ++ gs) (v ++ rest)) := by
  rcases derives_factor.mp hw with hw | ⟨kind, hw⟩ | hw | rfl | rfl
  · obtain ⟨ab, c, rfl, hab, hc⟩ := derives_append.mp hw
    obtain ⟨a, b, rfl, ha, hb⟩ := derives_append.mp hab
    obtain ⟨t, v, before, next, hbc, ht, hmove, hv, hclean⟩ :=
      clean_symbol (derives_append.mpr ⟨b, c, rfl, hb, hc⟩) h hrest
    rw [List.append_assoc, hbc]
    rcases derives_opt.mp ha with rfl | ha
    · have hfactor : t ∈ factorStarts ∧ factorMove (some t) = symbolMove (some t) := by
        cases t <;> first | exact ⟨by decide, rfl⟩ | simp [Token.isSymbol] at ht
      exact ⟨t, v, rfl, hfactor.1, Or.inl ⟨before, next, hfactor.2.trans hmove, hv, hclean⟩⟩
    · obtain rfl := derives_tok.mp ha
      have hsymbol : Clean (Goal.symbol :: gs) (some t :: (v ++ rest)) := .take _ _ hmove hv hclean
      exact ⟨.weakKw, some t :: v, rfl, by decide,
        Or.inl ⟨none, [.announce .afterWeak, Goal.symbol], rfl, by simp, hsymbol.announce _⟩⟩
  · obtain ⟨u, rfl, hu⟩ := derives_bracketed.mp hw
    have hlen : u.length < n := by
      simp only [List.length_cons, List.length_append, List.length_nil] at hn
      omega
    have hopener : kind.opener ∈ factorStarts ∧
        factorMove (some kind.opener) = .take none (group kind) := by
      cases kind <;> exact ⟨by decide, rfl⟩
    refine ⟨kind.opener, u ++ [some kind.closer], rfl, hopener.1,
      Or.inl ⟨none, group kind, hopener.2, ?_, ?_⟩⟩
    · have hcloser : Starts [kind.closer] (some kind.closer :: rest) := starts_cons (by simp)
      simpa using (starts_append (starts_expression hu) hcloser).valid
    · simpa using clean_group ih hlen hu h hrest.valid
  · obtain ⟨v, rfl, hv⟩ := clean_action hw (h.announce .afterFactor) hrest.valid
    exact ⟨.parenPeriod, v, rfl, by decide,
      Or.inr ⟨[.announce .semanticText, action, .announce .afterFactor], rfl, hv.announce _⟩⟩
  · exact ⟨.anyKw, [], rfl, by decide,
      Or.inl ⟨none, [.announce .afterFactor], rfl, hrest.valid, h.announce _⟩⟩
  · exact ⟨.syncKw, [], rfl, by decide,
      Or.inl ⟨none, [.announce .afterFactor], rfl, hrest.valid, h.announce _⟩⟩

theorem clean_factors (hn : w.length ≤ n) (hw : Derives (many (part .factor)) w) (h : Clean gs rest)
    (hrest : Starts (.bar :: expressionFollow) rest) : Clean (factors :: gs) (w ++ rest) := by
  revert hn
  refine many_induction (P := fun w => w.length ≤ n → Clean (factors :: gs) (w ++ rest)) ?_ ?_ hw
  · intro _
    refine Clean.omit ?_ h hrest
    decide
  · intro u v hu hv ihv hn
    rw [List.length_append] at hn
    have hstarts := starts_append (starts_many starts_factor hv) hrest
    obtain ⟨t, x, rfl, ht, hmove⟩ := clean_factor ih (by omega) hu (ihv (by omega)) hstarts
    have hstart := startsFactor_of_mem t ht
    rw [List.append_assoc]
    rcases hmove with ⟨before, next, hmove, hx, hclean⟩ | ⟨next, hmove, hclean⟩
    · refine .take before (next ++ [factors]) ?_ hx (by simpa using hclean)
      simp [move, hstart, hmove, Move.followedBy]
    · refine .skip (next ++ [factors]) ?_ (by simpa using hclean)
      simp [move, hstart, hmove, Move.followedBy]

theorem clean_term (hn : w.length ≤ n) (hw : Derives (part .term) w) (h : Clean gs rest)
    (hrest : Starts (.bar :: expressionFollow) rest) :
    Clean (resolverOption :: factors :: gs) (w ++ rest) := by
  obtain ⟨a, b, rfl, ha, hb⟩ := derives_append.mp (derives_part.mp hw)
  simp only [List.length_append] at hn
  have hstarts := starts_append (starts_many starts_factor hb) hrest
  simpa using clean_resolverOption ha (clean_factors ih (by omega) hb h hrest) hstarts

theorem clean_alternatives (hn : w.length ≤ n) (hw : Derives (many (tok .bar ++ part .term)) w)
    (h : Clean gs rest) (hrest : Starts expressionFollow rest) :
    Clean (alternatives :: gs) (w ++ rest) := by
  revert hn
  refine many_induction
    (P := fun w => w.length ≤ n → Clean (alternatives :: gs) (w ++ rest)) ?_ ?_ hw
  · intro _
    exact Clean.omit (move_optionMove_of_not_mem (fun _ => rfl) (by decide)) h hrest
  · intro u v hu hv ihv hn
    obtain ⟨a, b, rfl, ha, hb⟩ := derives_append.mp hu
    obtain rfl := derives_tok.mp ha
    simp only [List.length_append, List.length_cons, List.length_nil] at hn
    have hstarts : Starts (.bar :: expressionFollow) (v ++ rest) :=
      starts_append (starts_many starts_tok_append hv) hrest
    have hterm := clean_term ih (by omega) hb (ihv (by omega)) hstarts
    have hvalid := (starts_append (starts_term hb) hstarts).valid
    have henter : Clean (alternatives :: gs) (some .bar :: (b ++ (v ++ rest))) :=
      Clean.enter (fun _ => rfl) (hterm.announce .alternative) hvalid
    simpa using henter

end Terms

/-- **The right side of every production is met.** -/
theorem meetsExpression (hw : Derives (part .expression) w) : MeetsExpression w := by
  have hall : ∀ (n : Nat) (w : List (Option Token)), w.length < n →
      Derives (part .expression) w → MeetsExpression w := by
    intro n
    induction n with
    | zero => exact fun w hn => absurd hn (Nat.not_lt_zero _)
    | succ n ih =>
      intro w hn hw gs rest h hrest
      obtain ⟨a, b, rfl, ha, hb⟩ := derives_append.mp (derives_part.mp hw)
      simp only [List.length_append] at hn
      have halternatives := clean_alternatives ih (by omega) hb h hrest
      have hstarts : Starts (.bar :: expressionFollow) (b ++ rest) :=
        starts_append (starts_many starts_tok_append hb) hrest
      simpa [expression] using clean_term ih (by omega) ha halternatives hstarts
  exact hall _ w (Nat.lt_succ_self _) hw

/-! ### Sets of characters -/

/-- The tokens that may follow a character set. -/
def setFollow : List Token := [.period, .ignoreKw, .productionsKw]

theorem clean_simpleSet (hw : Derives (part .simpleSet) w) (h : Clean gs rest)
    (hrest : Starts (.plus :: .minus :: setFollow) rest) :
    Clean (simpleSet :: gs) (w ++ rest) ∧ (w ++ rest).head? ≠ some none := by
  have hafter : Clean (.announce .afterSimpleSet :: gs) rest := h.announce _
  rw [derives_part] at hw
  simp only [Part.rule, derives_or, derives_tok, or_assoc] at hw
  rcases hw with rfl | rfl | rfl | hw
  · exact ⟨.take (some .charSetReference) [.announce .afterSimpleSet] rfl
      hrest.valid hafter, by simp⟩
  · exact ⟨.take none [.announce .afterSimpleSet] rfl hrest.valid hafter,
      by simp⟩
  · exact ⟨.take none [.announce .afterSimpleSet] rfl hrest.valid hafter,
      by simp⟩
  · obtain ⟨a, b, rfl, ha, hb⟩ := derives_append.mp hw
    obtain rfl := derives_tok.mp ha
    refine ⟨?_, by simp⟩
    have hrange : Clean (rangeOption :: .announce .afterSimpleSet :: gs) (b ++ rest) ∧
        (b ++ rest).head? ≠ some none := by
      rcases derives_opt.mp hb with rfl | hb
      · exact ⟨Clean.omit (move_optionMove_of_not_mem (fun _ => rfl) (by decide)) hafter hrest,
          hrest.valid⟩
      · obtain ⟨c, d, rfl, hc, hd⟩ := derives_append.mp hb
        obtain rfl := derives_tok.mp hc
        obtain rfl := derives_tok.mp hd
        exact ⟨Clean.enter (fun _ => rfl) (hafter.require hrest.valid)
          (by simp), by simp⟩
    exact .take none [rangeOption, .announce .afterSimpleSet] rfl hrange.2
      hrange.1

theorem clean_set (hw : Derives (part .set) w) (h : Clean gs rest) (hrest : Starts setFollow rest) :
    Clean (set ++ gs) (w ++ rest) ∧ (w ++ rest).head? ≠ some none := by
  obtain ⟨a, b, rfl, ha, hb⟩ := derives_append.mp (derives_part.mp hw)
  have hfirst : ∀ {w}, Derives ((tok .plus ||| tok .minus) ++ part .simpleSet) w →
      Starts [.plus, .minus] w := by
    intro w hw
    obtain ⟨c, d, rfl, hc, -⟩ := derives_append.mp hw
    rcases derives_or.mp hc with hc | hc <;> obtain rfl := derives_tok.mp hc <;>
      exact starts_cons (by decide)
  have hstarts : ∀ {w}, Derives (many ((tok .plus ||| tok .minus) ++ part .simpleSet)) w →
      Starts (.plus :: .minus :: setFollow) (w ++ rest) :=
    fun hw => starts_append (starts_many hfirst hw) hrest
  have hoperations : Clean (setOperations :: gs) (b ++ rest) := by
    refine many_induction (P := fun w => Clean (setOperations :: gs) (w ++ rest)) ?_ ?_ hb
    · refine Clean.omit ?_ h hrest
      decide
    · intro u v hu hv ih
      obtain ⟨c, d, rfl, hc, hd⟩ := derives_append.mp hu
      obtain ⟨hset, hvalid⟩ := clean_simpleSet hd ih (hstarts hv)
      have htake : ∀ t, t = some Token.plus ∨ t = some Token.minus →
          Clean (setOperations :: gs) (t :: (d ++ (v ++ rest))) := by
        intro t ht
        exact .take none [.announce .setOperand, simpleSet, setOperations]
          (by simp [move, ht]) hvalid (hset.announce _)
      rcases derives_or.mp hc with hc | hc <;> obtain rfl := derives_tok.mp hc
      · simpa using htake _ (Or.inl rfl)
      · simpa using htake _ (Or.inr rfl)
  simpa [set] using clean_simpleSet ha hoperations (hstarts hb)

end Goal

end GrammarWorkbench
