import GrammarWorkbench.Parse.Goal
import Mathlib.Data.List.Basic

/-!
# The syntax of grammars as rules

What a grammar looks like, said without any parsing: a **phrase** describes words over the tokens,
`GrammarWorkbench.Part.rule` gives one phrase for each part of a grammar, and
`GrammarWorkbench.Phrase.Derives` says which words a phrase describes. A lexeme that is no token
stands in a word as `none`.

Phrases are put together the usual way: `p ++ q` is `p` followed by `q`, `p ||| q` is a choice,
`opt p` may be absent and `many p` may be repeated.

Host code is part of the rules. Most of it is any text up to the token that ends it, and there a
lexeme that is no token is as good as any other. The two places where host code follows a token of
the grammar are stricter: **no invalid lexeme may follow a token of the grammar**, so that the
global code (`GrammarWorkbench.Part.globalCode`) and the condition of a resolver
(`GrammarWorkbench.Part.condition`) do not begin with one.
-/

namespace GrammarWorkbench

/-- The parts of a grammar that have a rule. -/
inductive Part where
  | grammar
  /-- Text before the grammar. -/
  | preamble
  /-- Host code after the name of the grammar. -/
  | globalCode
  | charSet
  | set
  | simpleSet
  | tokenDeclaration
  | comment
  | tokenExpression
  | tokenTerm
  | tokenFactor
  | production
  | expression
  | term
  | factor
  /-- The condition of a conflict resolver. -/
  | condition
  /-- Host code in which parentheses are balanced. -/
  | parenText
  | attributes
  /-- Host code in which angle brackets are balanced. -/
  | angleText
  | action
deriving DecidableEq, Repr

/-- The token that opens a bracket. -/
def Brace.opener : Brace → Token
  | .paren => .leftParen
  | .bracket => .leftBracket
  | .brace => .leftBrace

/-- A description of words over the tokens. -/
inductive Phrase where
  | empty
  /-- One lexeme of a class. -/
  | one (p : Option Token → Bool)
  | seq (p q : Phrase)
  | alt (p q : Phrase)
  | opt (p : Phrase)
  | many (p : Phrase)
  | part (r : Part)

namespace Phrase

instance : Append Phrase := ⟨seq⟩

instance : HOr Phrase Phrase Phrase := ⟨alt⟩

/-- A given token. -/
def tok (t : Token) : Phrase :=
  one (· == some t)

/-- A name or a literal. -/
def symbol : Phrase :=
  one (·.any Token.isSymbol)

/-- A lexeme, valid or not, with none of the given tokens. -/
def lexemeBut (ts : List Token) : Phrase :=
  one fun t => !t.any ts.contains

/-- A token that is none of the given ones. -/
def tokenBut (ts : List Token) : Phrase :=
  one (·.any fun t => !ts.contains t)

/-- A phrase in brackets of one kind. -/
def bracketed (kind : Brace) (p : Phrase) : Phrase :=
  tok kind.opener ++ p ++ tok kind.closer

/-- A phrase in brackets of any kind. -/
def inBrackets (p : Phrase) : Phrase :=
  bracketed .paren p ||| bracketed .bracket p ||| bracketed .brace p

/-- The tokens at which the global code of a grammar ends. -/
def sectionStarts : List Token :=
  [.ignoreCaseKw, .charactersKw, .tokensKw, .pragmasKw, .commentsKw, .ignoreKw, .productionsKw]

end Phrase

open Phrase in
/-- **The rules**: one phrase for each part of a grammar. -/
def Part.rule : Part → Phrase
  | grammar =>
    part preamble ++ tok .compilerKw ++ tok .ident ++ part globalCode ++
      opt (tok .ignoreCaseKw) ++
      opt (tok .charactersKw ++ many (part charSet)) ++
      opt (tok .tokensKw ++ many (part tokenDeclaration)) ++
      opt (tok .pragmasKw ++ many (part tokenDeclaration)) ++
      many (part comment) ++
      many (tok .ignoreKw ++ part set) ++
      tok .productionsKw ++ many (part production) ++ tok .endKw ++ tok .ident ++ tok .period
  | preamble => many (lexemeBut [.compilerKw])
  | globalCode => opt (tokenBut sectionStarts ++ many (lexemeBut sectionStarts))
  | charSet => tok .ident ++ tok .equal ++ part set ++ tok .period
  | set => part simpleSet ++ many ((tok .plus ||| tok .minus) ++ part simpleSet)
  | simpleSet =>
    tok .ident ||| tok .string ||| tok .anyKw |||
      (tok .char ++ opt (tok .doublePeriod ++ tok .char))
  | tokenDeclaration =>
    symbol ++ opt (tok .equal ++ part tokenExpression ++ tok .period) ++ opt (part action)
  | comment =>
    tok .commentsKw ++ tok .fromKw ++ part tokenExpression ++ tok .toKw ++ part tokenExpression ++
      opt (tok .nestedKw)
  | tokenExpression => part tokenTerm ++ many (tok .bar ++ part tokenTerm)
  | tokenTerm =>
    part tokenFactor ++ many (part tokenFactor) ++
      opt (tok .contextKw ++ bracketed .paren (part tokenExpression))
  | tokenFactor => symbol ||| inBrackets (part tokenExpression)
  | production =>
    tok .ident ++ opt (part attributes) ++ opt (part action) ++ tok .equal ++ part expression ++
      tok .period
  | expression => part term ++ many (tok .bar ++ part term)
  | term =>
    opt (tok .ifKw ++ bracketed .paren (part condition)) ++ many (part factor)
  | factor =>
    (opt (tok .weakKw) ++ symbol ++ opt (part attributes)) ||| inBrackets (part expression) |||
      part action ||| tok .anyKw ||| tok .syncKw
  | condition =>
    opt ((tokenBut [.leftParen, .rightParen] |||
      bracketed .paren (part parenText)) ++ part parenText)
  | parenText =>
    many (lexemeBut [.leftParen, .rightParen] ||| bracketed .paren (part parenText))
  | attributes =>
    (tok .less ++ part angleText ++ tok .greater) |||
      (tok .lessPeriod ++ many (lexemeBut [.periodGreater, .badString]) ++ tok .periodGreater)
  | angleText =>
    many (lexemeBut [.less, .greater, .badString] |||
      (tok .less ++ part angleText ++ tok .greater))
  | action =>
    tok .parenPeriod ++ many (lexemeBut [.periodParen, .badString, .parenPeriod]) ++
      tok .periodParen

namespace Phrase

/-- **The words that a phrase describes.** -/
inductive Derives : Phrase → List (Option Token) → Prop
  | empty : Derives .empty []
  | one {p : Option Token → Bool} {t : Option Token} (h : p t = true) : Derives (.one p) [t]
  | seq {p q : Phrase} {u v : List (Option Token)} (hp : Derives p u) (hq : Derives q v) :
      Derives (.seq p q) (u ++ v)
  | left {p q : Phrase} {w : List (Option Token)} (h : Derives p w) : Derives (.alt p q) w
  | right {p q : Phrase} {w : List (Option Token)} (h : Derives q w) : Derives (.alt p q) w
  | absent {p : Phrase} : Derives (.opt p) []
  | present {p : Phrase} {w : List (Option Token)} (h : Derives p w) : Derives (.opt p) w
  | nil {p : Phrase} : Derives (.many p) []
  | cons {p : Phrase} {u v : List (Option Token)} (hp : Derives p u) (hq : Derives (.many p) v) :
      Derives (.many p) (u ++ v)
  | part {r : Part} {w : List (Option Token)} (h : Derives r.rule w) : Derives (.part r) w

variable {p q : Phrase} {u v w : List (Option Token)} {t : Token}

/-! ### Reading a derivation backwards -/

theorem derives_empty : Derives .empty w ↔ w = [] := by
  constructor
  · rintro ⟨⟩
    rfl
  · rintro rfl
    exact .empty

theorem derives_one {f : Option Token → Bool} : Derives (one f) w ↔ ∃ t, f t = true ∧ w = [t] := by
  constructor
  · rintro ⟨⟩
    exact ⟨_, by assumption, rfl⟩
  · rintro ⟨t, ht, rfl⟩
    exact .one ht

theorem derives_append : Derives (p ++ q) w ↔ ∃ u v, w = u ++ v ∧ Derives p u ∧ Derives q v := by
  constructor
  · intro h
    change Derives (.seq p q) w at h
    cases h with
    | seq hp hq => exact ⟨_, _, rfl, hp, hq⟩
  · rintro ⟨u, v, rfl, hp, hq⟩
    exact .seq hp hq

theorem derives_or : Derives (p ||| q) w ↔ Derives p w ∨ Derives q w := by
  constructor
  · intro h
    change Derives (.alt p q) w at h
    cases h with
    | left h => exact Or.inl h
    | right h => exact Or.inr h
  · rintro (h | h)
    · exact .left h
    · exact .right h

theorem derives_opt : Derives (opt p) w ↔ w = [] ∨ Derives p w := by
  constructor
  · intro h
    cases h with
    | absent => exact Or.inl rfl
    | present h => exact Or.inr h
  · rintro (rfl | h)
    · exact .absent
    · exact .present h

theorem derives_many :
    Derives (many p) w ↔ w = [] ∨ ∃ u v, w = u ++ v ∧ Derives p u ∧ Derives (many p) v := by
  constructor
  · intro h
    cases h with
    | nil => exact Or.inl rfl
    | cons hp hq => exact Or.inr ⟨_, _, rfl, hp, hq⟩
  · rintro (rfl | ⟨u, v, rfl, hp, hq⟩)
    · exact .nil
    · exact .cons hp hq

theorem derives_part {r : Part} : Derives (part r) w ↔ Derives r.rule w := by
  constructor
  · rintro ⟨⟩
    assumption
  · exact .part

theorem derives_tok : Derives (tok t) w ↔ w = [some t] := by
  simp [tok, derives_one]

theorem derives_symbol : Derives symbol w ↔ ∃ t : Token, t.isSymbol = true ∧ w = [some t] := by
  rw [symbol, derives_one]
  constructor
  · rintro ⟨t, ht, rfl⟩
    cases t with
    | none => simp at ht
    | some t => exact ⟨t, ht, rfl⟩
  · rintro ⟨t, ht, rfl⟩
    exact ⟨some t, ht, rfl⟩

theorem derives_bracketed {kind : Brace} :
    Derives (bracketed kind p) w ↔
      ∃ u, w = some kind.opener :: (u ++ [some kind.closer]) ∧ Derives p u := by
  simp only [bracketed, derives_append, derives_tok]
  constructor
  · rintro ⟨_, _, rfl, ⟨_, u, rfl, rfl, hu⟩, rfl⟩
    exact ⟨u, by simp, hu⟩
  · rintro ⟨u, rfl, hu⟩
    exact ⟨some kind.opener :: u, _, by simp, ⟨_, u, by simp, rfl, hu⟩, rfl⟩

theorem derives_inBrackets :
    Derives (inBrackets p) w ↔ ∃ kind, Derives (bracketed kind p) w := by
  simp only [inBrackets, derives_or]
  constructor
  · rintro ((h | h) | h)
    · exact ⟨.paren, h⟩
    · exact ⟨.bracket, h⟩
    · exact ⟨.brace, h⟩
  · rintro ⟨_ | _ | _, h⟩
    · exact Or.inl (Or.inl h)
    · exact Or.inl (Or.inr h)
    · exact Or.inr h

end Phrase

end GrammarWorkbench
