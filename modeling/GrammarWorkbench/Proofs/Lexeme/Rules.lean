import GrammarWorkbench.Lexeme.Basic
import GrammarWorkbench.Proofs.Text.Bytes
import Mathlib.Data.List.Basic

/-!
# The rules by which pieces are found

The first piece of a text is found by a chain of conditions on its first characters. Here every way
through the chain is a rule (`GrammarWorkbench.Shape.Rule`), which names the shape and the length of
the piece and says what the text must be for it, and the chain decides between the rules
(`GrammarWorkbench.Shape.first_eq_iff`). What is said about pieces is shown rule by rule, and it is
said about lexemes because they are first pieces of texts
(`GrammarWorkbench.Lexeme.exists_first`).
-/

namespace GrammarWorkbench

/-- The characters with which a word begins. -/
def Text.startsWord (c : Char) : Bool :=
  isLetter c || c == '_'

theorem Text.isWord_of_startsWord {c : Char} (h : startsWord c = true) : isWord c = true := by
  simp only [startsWord, Bool.or_eq_true] at h
  rcases h with h | h <;> simp [isWord, h]

/-- A word does not begin with a digit. -/
theorem Text.isDigit_of_startsWord {c : Char} (h : startsWord c = true) : isDigit c = false := by
  simp only [startsWord, Bool.or_eq_true, beq_iff_eq] at h
  by_contra hdigit
  have hdigit := isDigit_iff.mp (eq_true_of_ne_false hdigit)
  rcases h with h | rfl
  · have := isLetter_iff.mp h
    omega
  · exact absurd hdigit (by decide)

namespace Shape

variable {c d : Char} {t : Text} {shape : Shape} {kind : Token} {n more : Nat}

/-- The characters of a pragma after its dollar sign. -/
def isPragma (c : Char) : Bool :=
  Text.isLetter c || Text.isDigit c

/-- The characters that neither end a line nor close a literal in single quotes. -/
def isQuoted (c : Char) : Bool :=
  c != '\'' && !isTerminator c

/-- **A stray character** begins no other piece. -/
structure Stray (c : Char) (t : Text) : Prop where
  notLayout : isLayout c = false
  notWord : Text.isWord c = false
  notMark : ofMark c t = none
  notOpening : c ∉ ['$', '"', '\'', '/']

/-- **The rules by which a piece is found**: what the piece of the text `c :: t` is, and how many
characters of `t` belong to it. -/
inductive Rule : Char → Text → Shape → Nat → Prop
  | space {c : Char} {t : Text} (hc : isLayout c = true) : Rule c t .layout 0
  | pragma {t : Text} : Rule '$' t .layout (run isPragma t)
  | word {c : Char} {t : Text} (hc : Text.startsWord c = true) :
      Rule c t (.token (.ofWord (c :: t.take (run Text.isWord t)))) (run Text.isWord t)
  | number {c : Char} {t : Text} (hword : Text.startsWord c = false)
      (hc : Text.isDigit c = true) : Rule c t (.token .number) (run Text.isDigit t)
  | string {t : Text} {n : Nat} (h : stringBody t = (n, true)) : Rule '"' t (.token .string) n
  | badString {t : Text} {n : Nat} (h : stringBody t = (n, false)) :
      Rule '"' t (.token .badString) n
  | char {c : Char} {t : Text} (hquote : c ≠ '\'') (hescape : c ≠ '\\')
      (hc : isTerminator c = false) : Rule '\'' (c :: '\'' :: t) (.token .char) 2
  | escape {c : Char} {t : Text} (hc : isTerminator c = false)
      (h : t[run isQuoted t]? = some '\'') :
      Rule '\'' ('\\' :: c :: t) (.token .char) (run isQuoted t + 3)
  | openEscape {c : Char} {t : Text} (hc : isTerminator c = false)
      (h : t[run isQuoted t]? ≠ some '\'') :
      Rule '\'' ('\\' :: c :: t) .invalid (run isQuoted t + 2)
  | quote {t : Text} (hescape : ∀ c u, t = '\\' :: c :: u → isTerminator c = true)
      (hchar : ∀ c u, t = c :: '\'' :: u → c = '\'' ∨ c = '\\' ∨ isTerminator c = true) :
      Rule '\'' t .invalid 0
  | lineComment {t : Text} :
      Rule '/' ('/' :: t) (.token .lineComment) (run (fun c => !isTerminator c) t + 1)
  | blockComment {t : Text} {n : Nat} (h : commentBody 0 t = some n) :
      Rule '/' ('*' :: t) (.token .blockComment) (n + 1)
  | openComment {t : Text} (h : commentBody 0 t = none) :
      Rule '/' ('*' :: t) .invalid (t.length + 1)
  | slash {t : Text} (hslash : t.head? ≠ some '/') (hstar : t.head? ≠ some '*') :
      Rule '/' t (.token .other) 0
  | mark {c : Char} {t : Text} {kind : Token} {n : Nat} (h : ofMark c t = some (kind, n)) :
      Rule c t (.token kind) n
  | blank {c : Char} {t : Text} (hc : Stray c t) (h : Text.isBlank c = true) : Rule c t .invalid 0
  | other {c : Char} {t : Text} (hc : Stray c t) (h : Text.isBlank c = false) :
      Rule c t (.token .other) 0

/-! ### Every piece is found by a rule -/

theorem rule_ofString (h : ofString t = (shape, more)) : Rule '"' t shape more := by
  unfold ofString at h
  split at h
  next n closed hbody =>
    cases closed <;> cases h
    · exact .badString hbody
    · exact .string hbody

theorem rule_ofChar (h : ofChar t = (shape, more)) : Rule '\'' t shape more := by
  unfold ofChar at h
  split at h
  next c u =>
    split at h
    next hc =>
      cases h
      refine .quote ?_ ?_
      · rintro d v hu
        cases hu
        exact hc
      · rintro d v hu
        cases hu
        exact Or.inr (Or.inl rfl)
    next hc =>
      dsimp only at h
      split at h <;> cases h
      next hclosed => exact .escape (eq_false_of_ne_true hc) hclosed
      next hopen => exact .openEscape (eq_false_of_ne_true hc) hopen
  next c u hescape =>
    split at h
    next hc =>
      cases h
      refine .quote ?_ ?_
      · rintro d v ⟨⟩
        exact (hescape rfl).elim
      · rintro d v ⟨⟩
        simpa only [Bool.or_eq_true, decide_eq_true_eq, or_assoc] using hc
    next hc =>
      cases h
      simp only [Bool.or_eq_true, decide_eq_true_eq, not_or] at hc
      exact .char hc.1.1 hc.1.2 (eq_false_of_ne_true hc.2)
  next hescape hchar =>
    cases h
    exact .quote (fun d v hu => absurd hu (hescape d v)) (fun d v hu => absurd hu (hchar d v))

theorem rule_ofSlash (h : ofSlash t = (shape, more)) : Rule '/' t shape more := by
  unfold ofSlash at h
  split at h
  next => cases h; exact .lineComment
  next =>
    split at h <;> cases h
    next hclosed => exact .blockComment hclosed
    next hopen => exact .openComment hopen
  next hslash hstar =>
    cases h
    cases t with
    | nil => exact .slash nofun nofun
    | cons c u =>
      refine .slash ?_ ?_
      · rintro ⟨⟩
        exact hslash u rfl
      · rintro ⟨⟩
        exact hstar u rfl

theorem rule_of_first (h : first c t = (shape, more)) : Rule c t shape more := by
  unfold first at h
  split at h
  next hspace => cases h; exact .space hspace
  next hspace =>
  split at h
  next hdollar => subst hdollar; cases h; exact .pragma
  next hdollar =>
  split at h
  next hword => cases h; exact .word (by simpa [Text.startsWord] using hword)
  next hstart =>
  have hstart : Text.startsWord c = false := by simpa [Text.startsWord] using hstart
  split at h
  next hdigit => cases h; exact .number hstart hdigit
  next hdigit =>
  split at h
  next hquote => subst hquote; exact rule_ofString h
  next hstring =>
  split at h
  next hquote => subst hquote; exact rule_ofChar h
  next hchar =>
  split at h
  next hslash => subst hslash; exact rule_ofSlash h
  next hslash =>
  split at h
  next kind n hmark => cases h; exact .mark hmark
  next hmark =>
    have hstray : Stray c t := by
      refine ⟨eq_false_of_ne_true hspace, ?_, hmark, by simp [hdollar, hstring, hchar, hslash]⟩
      simp only [Text.startsWord, Bool.or_eq_false_iff] at hstart
      simp [Text.isWord, hstart, hdigit]
    split at h <;> cases h
    next hblank => exact .blank hstray hblank
    next hblank => exact .other hstray (eq_false_of_ne_true hblank)

/-! ### Every rule finds its piece -/

theorem isWord_of_isLayout (h : isLayout c = true) : Text.isWord c = false := by
  simp only [isLayout, Bool.or_eq_true, beq_iff_eq] at h
  rcases h with (((rfl | rfl) | rfl) | rfl) | rfl <;> decide

theorem isLayout_of_isWord (h : Text.isWord c = true) : isLayout c = false := by
  by_contra hc
  rw [isWord_of_isLayout (eq_true_of_ne_false hc)] at h
  cases h

/-- The end of the chain of conditions: marks and stray characters. -/
theorem first_of_not_opening (hspace : isLayout c = false) (hword : Text.isWord c = false)
    (hopening : c ∉ ['$', '"', '\'', '/']) :
    first c t = match ofMark c t with
      | some (kind, n) => (token kind, n)
      | none => if Text.isBlank c then (invalid, 0) else (token .other, 0) := by
  simp only [List.mem_cons, List.not_mem_nil, or_false, not_or] at hopening
  simp only [Text.isWord, Bool.or_eq_false_iff, beq_eq_false_iff_ne] at hword
  obtain ⟨hdollar, hstring, hchar, hslash⟩ := hopening
  obtain ⟨⟨hletter, hdigit⟩, hline⟩ := hword
  cases hmark : ofMark c t <;>
    simp only [first, hspace, hdollar, hletter, hline, hdigit, hstring, hchar, hslash, hmark,
      if_false, Bool.false_eq_true, decide_false, Bool.or_false]

theorem first_doubleQuote (t : Text) : first '"' t = ofString t := rfl

theorem first_quote (t : Text) : first '\'' t = ofChar t := rfl

theorem first_slash (t : Text) : first '/' t = ofSlash t := rfl

theorem not_opening_of_ofMark (h : ofMark c t = some (kind, n)) :
    isLayout c = false ∧ Text.isWord c = false ∧ c ∉ ['$', '"', '\'', '/'] := by
  unfold ofMark at h
  split at h <;> cases h
  all_goals decide

theorem ofChar_escape (hc : isTerminator c = false) (t : Text) : ofChar ('\\' :: c :: t) =
    if t[run isQuoted t]? = some '\'' then (token .char, run isQuoted t + 3)
    else (invalid, run isQuoted t + 2) := by
  rw [ofChar, if_neg (by simp [hc])]
  rfl

theorem first_of_rule (h : Rule c t shape more) : first c t = (shape, more) := by
  cases h with
  | space hc => rw [first, if_pos hc]
  | pragma => rfl
  | word hc =>
    have hdollar : c ≠ '$' := by
      rintro rfl
      cases hc
    have hword : (Text.isLetter c || decide (c = '_')) = true := by
      simpa [Text.startsWord] using hc
    rw [first, isLayout_of_isWord (Text.isWord_of_startsWord hc), if_neg Bool.false_ne_true,
      if_neg hdollar, if_pos hword]
  | number hword hc =>
    have hdollar : c ≠ '$' := by
      rintro rfl
      cases hc
    have hstart : ¬(Text.isLetter c || decide (c = '_')) = true := by
      simpa [Text.startsWord] using hword
    rw [first, isLayout_of_isWord (by simp [Text.isWord, hc]), if_neg Bool.false_ne_true,
      if_neg hdollar, if_neg hstart, if_pos hc]
  | string h | badString h =>
    rw [first_doubleQuote, ofString, h]
    rfl
  | char hquote hescape hc =>
    rw [first_quote]
    unfold ofChar
    split
    next hcons => exact absurd (List.cons.inj hcons).1 hescape
    next hcons =>
      cases hcons
      simp [hquote, hescape, hc]
    next hchar => exact absurd rfl (hchar _ _)
  | escape hc h => rw [first_quote, ofChar_escape hc, if_pos h]
  | openEscape hc h => rw [first_quote, ofChar_escape hc, if_neg h]
  | quote hescape hchar =>
    rw [first_quote]
    unfold ofChar
    split
    next c u => rw [if_pos (hescape c u rfl)]
    next c u _ =>
      have hc := hchar c u rfl
      rw [if_pos (by simpa only [Bool.or_eq_true, decide_eq_true_eq, or_assoc] using hc)]
    next => rfl
  | lineComment => rfl
  | blockComment h | openComment h =>
    rw [first_slash, ofSlash, h]
  | slash hslash hstar =>
    rw [first_slash]
    unfold ofSlash
    split
    next => exact absurd rfl hslash
    next => exact absurd rfl hstar
    next => rfl
  | mark h =>
    obtain ⟨hspace, hword, hopening⟩ := not_opening_of_ofMark h
    rw [first_of_not_opening hspace hword hopening, h]
  | blank hc h | other hc h =>
    rw [first_of_not_opening hc.notLayout hc.notWord hc.notOpening, hc.notMark]
    simp [h]

/-- **The first piece of a text is the one that a rule finds.** -/
theorem first_eq_iff : first c t = (shape, more) ↔ Rule c t shape more :=
  ⟨rule_of_first, first_of_rule⟩

/-- **The rules do not overlap.** -/
theorem Rule.unique {shape' : Shape} {more' : Nat} (h : Rule c t shape more)
    (h' : Rule c t shape' more') : shape = shape' ∧ more = more' :=
  Prod.mk.inj ((first_of_rule h).symm.trans (first_of_rule h'))

end Shape

/-! ### Lexemes are pieces -/

namespace Lexeme

/-- The shape of the piece that a lexeme is. -/
def shape (x : Lexeme) : Shape :=
  x.token.elim .invalid .token

variable {index : LineIndex} {offset : Nat} {t : Text} {x : Lexeme} {kind : Token}

theorem shape_eq_token_iff : x.shape = .token kind ↔ x.token = some kind := by
  cases htoken : x.token <;> simp [Lexeme.shape, htoken]

theorem ofShape?_eq_some {shape : Shape} (h : ofShape? index offset shape t = some x) :
    x.shape = shape ∧ x.start = offset ∧ x.text = t ∧ x.position = index.position offset := by
  cases shape <;> cases h <;> exact ⟨rfl, rfl, rfl, rfl⟩

/-- **A lexeme is the first piece of a text.** -/
theorem exists_first (h : x ∈ scanFrom index offset t) :
    ∃ (pre : Text) (c : Char) (u : Text) (more : Nat), t = pre ++ c :: u ∧
      Shape.first c u = (x.shape, more) ∧ x.start = offset + pre.size ∧
      x.text = c :: u.take more ∧ x.position = index.position x.start := by
  fun_induction scanFrom index offset t with
  | case1 => cases h
  | case2 offset c t shape more hfirst piece ih =>
    rcases List.mem_append.mp h with h | h
    · obtain ⟨hshape, hstart, htext, hposition⟩ := ofShape?_eq_some (Option.mem_toList.mp h)
      exact ⟨[], c, t, more, rfl, by rw [hfirst, hshape], hstart, htext, by rw [hposition, hstart]⟩
    · obtain ⟨pre, d, u, n, htext, hd, hstart, hrest⟩ := ih h
      refine ⟨piece ++ pre, d, u, n, ?_, hd, ?_, hrest⟩
      · rw [List.append_assoc, ← htext, List.cons_append, List.take_append_drop]
      · rw [hstart, Text.size_append, Nat.add_assoc]

end Lexeme

end GrammarWorkbench
