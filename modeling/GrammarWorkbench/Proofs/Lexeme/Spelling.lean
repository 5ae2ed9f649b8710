import GrammarWorkbench.Proofs.Lexeme.Rules
import GrammarWorkbench.Symbol

/-!
# How names and literals are spelled

A lexeme has at least one character, and the first one tells names and literals apart: a name begins
with a letter or an underscore, and a literal begins with a quote. So the symbols of a grammar can
be sorted by their names alone.
-/

namespace GrammarWorkbench

namespace Token

/-- The tokens with a spelling. -/
def spelled : List Token :=
  keywords ++
    [equal, period, doublePeriod, plus, minus, bar, leftParen, rightParen, leftBracket,
     rightBracket, leftBrace, rightBrace, less, greater, lessPeriod, periodGreater, parenPeriod,
     periodParen, comma]

theorem mem_spelled {t : Token} (h : t.spelling?.isSome = true) : t ∈ spelled := by
  cases t <;> first | decide | cases h

theorem find?_spelled : ∀ t ∈ spelled, spelled.find? (·.spelling? == t.spelling?) = some t := by
  decide +kernel

/-- **No two tokens are spelled alike.** -/
theorem eq_of_spelling? {t t' : Token} (h : t.spelling? = t'.spelling?)
    (hsome : t.spelling?.isSome = true) : t = t' := by
  have hfind := find?_spelled t (mem_spelled hsome)
  rw [h, find?_spelled t' (mem_spelled (h ▸ hsome))] at hfind
  exact (Option.some.inj hfind).symm

end Token

/-- Whether a symbol is named by a word, and not by a literal. -/
def Symbol.isWord (s : Symbol) : Bool :=
  s.name.head?.any Text.startsWord

namespace Shape

variable {c : Char} {t : Text}

/-- Marks are neither names nor literals. -/
theorem isSymbol_ofMark {kind : Token} {more : Nat} (h : ofMark c t = some (kind, more)) :
    kind.isSymbol = false := by
  unfold ofMark at h
  split at h <;> cases h <;> rfl

/-- A word is a keyword or a name, and keywords are no symbols. -/
theorem eq_ident_of_ofWord {word : Text} (h : (Token.ofWord word).isSymbol = true) :
    Token.ofWord word = .ident := by
  unfold Token.ofWord at h ⊢
  cases hfind : Token.ofKeyword? word with
  | none => rfl
  | some k =>
    have hkeyword : ∀ k ∈ Token.keywords, k.isSymbol = false := by decide
    rw [hfind, Option.getD_some, hkeyword k (List.mem_of_find?_eq_some hfind)] at h
    cases h

/-- **Names are words, and literals are not.** -/
theorem startsWord_of_first {kind : Token} (h : (first c t).1 = .token kind)
    (hkind : kind.isSymbol = true) : Text.startsWord c = (kind == .ident) := by
  have hrule : Rule c t (.token kind) (first c t).2 := rule_of_first (Prod.ext h rfl)
  generalize (first c t).2 = more at hrule
  cases hrule with
  | word hc =>
    rw [hc, eq_ident_of_ofWord hkind]
    rfl
  | string | char | escape => rfl
  | mark h => cases (isSymbol_ofMark h).symm.trans hkind
  | number | badString | lineComment | blockComment | slash | other => cases hkind

end Shape

namespace Lexeme

variable {source : Text} {x : Lexeme}

theorem text_ne_nil_of_mem_scan (h : x ∈ scan source) : x.text ≠ [] := by
  obtain ⟨pre, c, u, more, -, -, -, htext, -⟩ := exists_first (List.mem_filter.mp h).1
  rw [htext]
  exact List.cons_ne_nil _ _

/-- **The first character of a lexeme tells names and literals apart.** -/
theorem startsWord_of_mem_scan (h : x ∈ scan source)
    (hsymbol : x.token.any Token.isSymbol = true) :
    x.text.head?.any Text.startsWord = decide (x.token = some .ident) := by
  obtain ⟨pre, c, u, more, -, hfirst, -, htext, -⟩ := exists_first (List.mem_filter.mp h).1
  cases htoken : x.token with
  | none => simp [htoken] at hsymbol
  | some kind =>
    have hshape : (Shape.first c u).1 = .token kind := by
      rw [hfirst, shape_eq_token_iff.mpr htoken]
    have hword := Shape.startsWord_of_first hshape (by simpa [htoken] using hsymbol)
    rw [htext, List.head?_cons, Option.any_some, hword]
    cases kind <;> rfl

end Lexeme

end GrammarWorkbench
