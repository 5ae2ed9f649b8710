import GrammarWorkbench.Proofs.Lexeme.Edges
import GrammarWorkbench.Proofs.Source.Cuts

/-!
# The lexemes of a source tile it

A source is cut into pieces, and nothing of it is lost: what stands between its lexemes is layout.
To say so without the cutting, layout is described by its characters
(`GrammarWorkbench.Text.IsLayout`), and the lexemes **tile** a text if they stand in it one behind
the other with nothing but layout around them (`GrammarWorkbench.Lexeme.Tiles`). That the lexemes of
a source tile it is shown along the recursion of the scanner
(`GrammarWorkbench.Lexeme.tiles_scanFrom`), and their places and their order follow from that alone.

Only a comment goes on over several lines. Every other rule stops at the end of a line, the ones for
what is not closed as well (`GrammarWorkbench.Shape.isPlain_or_comment`).
-/

namespace GrammarWorkbench

/-! ### Layout -/

namespace Text

variable {s t : Text}

/-- **Layout** is made of white space of ASCII, and of pragmas: a dollar sign with letters and
digits after it. -/
inductive IsLayout : Text → Prop
  | nil : IsLayout []
  | space {c : Char} {t : Text} (hc : c ∈ [' ', '\t', '\r', '\n', '\x0c']) (h : IsLayout t) :
      IsLayout (c :: t)
  | pragma {w t : Text} (hw : ∀ c ∈ w, isLetter c = true ∨ isDigit c = true) (h : IsLayout t) :
      IsLayout ('$' :: (w ++ t))

theorem IsLayout.append (hs : IsLayout s) (ht : IsLayout t) : IsLayout (s ++ t) := by
  induction hs with
  | nil => exact ht
  | space hc _ ih => exact .space hc ih
  | pragma hw _ ih =>
    rw [List.cons_append, List.append_assoc]
    exact .pragma hw ih

end Text

/-! ### The shapes of pieces -/

namespace Shape

variable {c d : Char} {t : Text} {shape : Shape} {more : Nat}

/-- **The layout between tokens.** -/
theorem isLayout_of_first (h : first c t = (.layout, more)) :
    Text.IsLayout (c :: t.take more) := by
  cases rule_of_first h with
  | space hc => exact .space (by simpa [isLayout, or_assoc] using hc) .nil
  | pragma =>
    have hbody : ∀ d ∈ t.take (run isPragma t), Text.isLetter d = true ∨ Text.isDigit d = true :=
      fun d hd => (Bool.or_eq_true _ _).mp (of_mem_take_run hd)
    have hpragma := Text.IsLayout.pragma hbody .nil
    rwa [List.append_nil] at hpragma

/-! ### Pieces on one line -/

theorem isPlain_nil : Text.IsPlain [] := by
  simp [Text.IsPlain]

theorem isPlain_cons (hc : isTerminator c = false) (ht : t.IsPlain) : Text.IsPlain (c :: t) :=
  List.forall_mem_cons.mpr ⟨by simpa [isTerminator] using hc, ht⟩

theorem isPlain_take_run {p : Char → Bool} (hp : ∀ d, p d = true → isTerminator d = false)
    (t : Text) : Text.IsPlain (t.take (run p t)) := by
  intro d hd
  simpa [isTerminator] using hp d (of_mem_take_run hd)

theorem isTerminator_of_isQuoted (d : Char) (h : isQuoted d = true) : isTerminator d = false := by
  simpa using (Bool.and_eq_true_iff.mp h).2

theorem isTerminator_of_isLayout (h : isLayout c = false) : isTerminator c = false := by
  simp only [isLayout, Bool.or_eq_false_iff] at h
  simp [isTerminator, h]

theorem isPlain_stringBody (t : Text) : Text.IsPlain (t.take (stringBody t).1) := by
  fun_induction stringBody t with
  | case1 | case3 | case4 | case5 => exact isPlain_nil
  | case2 t => exact isPlain_cons (by decide) isPlain_nil
  | case6 d t hd _ _ ih =>
    exact isPlain_cons (by decide) (isPlain_cons (eq_false_of_ne_true hd) ih)
  | case7 c t _ hc _ ih => exact isPlain_cons (eq_false_of_ne_true hc) ih

theorem isPlain_ofMark {kind : Token} (h : ofMark c t = some (kind, more)) :
    Text.IsPlain (t.take more) := by
  unfold ofMark at h
  split at h <;> cases h
  all_goals simp [Text.IsPlain]

/-- **The beginning of a comment that nothing closes.** -/
def OpensComment (t : Text) : Prop :=
  ∃ body, t = '/' :: '*' :: body ∧ commentBody 0 body = none

/-- What begins with such a comment is no token, to its end. -/
theorem first_of_opensComment (h : OpensComment (c :: t)) : first c t = (.invalid, t.length) := by
  obtain ⟨body, htext, hbody⟩ := h
  obtain ⟨rfl, rfl⟩ := List.cons.inj htext
  exact first_of_rule (.openComment hbody)

/-- **What goes on over the end of a line** is layout, a block comment, or a comment that nothing
closes. -/
theorem isPlain_or_comment (h : first c t = (shape, more)) :
    Text.IsPlain (c :: t.take more) ∨ shape = .layout ∨ shape = .token .blockComment ∨
      OpensComment (c :: t) := by
  cases rule_of_first h with
  | space | pragma => exact Or.inr (Or.inl rfl)
  | word hc =>
    exact Or.inl (Text.isPlain_of_isWord (List.forall_mem_cons.mpr
      ⟨Text.isWord_of_startsWord hc, fun d hd => of_mem_take_run hd⟩))
  | number _ hc =>
    have hword {d : Char} (hd : Text.isDigit d = true) : Text.isWord d = true := by
      simp [Text.isWord, hd]
    exact Or.inl (Text.isPlain_of_isWord (List.forall_mem_cons.mpr
      ⟨hword hc, fun d hd => hword (of_mem_take_run hd)⟩))
  | string hbody | badString hbody =>
    have hplain := isPlain_stringBody t
    rw [hbody] at hplain
    exact Or.inl (isPlain_cons (by decide) hplain)
  | char _ _ hc =>
    exact Or.inl (isPlain_cons (by decide) (isPlain_cons hc (isPlain_cons (by decide) isPlain_nil)))
  | @escape _ t hc hclosed =>
    have hbody := isPlain_take_run isTerminator_of_isQuoted t
    have hquoted : Text.IsPlain (t.take (run isQuoted t + 1)) := by
      rw [List.take_add_one, hclosed]
      exact List.forall_mem_append.mpr ⟨hbody, isPlain_cons (by decide) isPlain_nil⟩
    exact Or.inl (isPlain_cons (by decide) (isPlain_cons (by decide) (isPlain_cons hc hquoted)))
  | @openEscape _ t hc =>
    have hbody := isPlain_take_run isTerminator_of_isQuoted t
    exact Or.inl (isPlain_cons (by decide) (isPlain_cons (by decide) (isPlain_cons hc hbody)))
  | @lineComment t =>
    have hbody := isPlain_take_run (p := fun c => !isTerminator c) (fun d hd => by simpa using hd) t
    exact Or.inl (isPlain_cons (by decide) (isPlain_cons (by decide) hbody))
  | blockComment => exact Or.inr (Or.inr (Or.inl rfl))
  | openComment hopen => exact Or.inr (Or.inr (Or.inr ⟨_, rfl, hopen⟩))
  | quote | slash => exact Or.inl (isPlain_cons (by decide) isPlain_nil)
  | mark hmark =>
    obtain ⟨hspace, -, -⟩ := not_opening_of_ofMark hmark
    exact Or.inl (isPlain_cons (isTerminator_of_isLayout hspace) (isPlain_ofMark hmark))
  | blank hc | other hc =>
    exact Or.inl (isPlain_cons (isTerminator_of_isLayout hc.notLayout) isPlain_nil)

end Shape

/-! ### Tiling -/

namespace Lexeme

variable {index : LineIndex} {offset : Nat} {s t source : Text} {x y : Lexeme} {xs : List Lexeme}

/-- **Lexemes tile a text** that begins at `offset` if they stand in it one behind the other, each
at its place, and there is nothing but layout around them. -/
inductive Tiles (index : LineIndex) : Nat → Text → List Lexeme → Prop
  | done {offset : Nat} {t : Text} (h : t.IsLayout) : Tiles index offset t []
  | lexeme {offset : Nat} {gap t : Text} {x : Lexeme} {xs : List Lexeme} (hgap : gap.IsLayout)
      (htext : x.text ≠ []) (hstart : x.start = offset + gap.size)
      (hposition : x.position = index.position x.start) (h : Tiles index x.stop t xs) :
      Tiles index offset (gap ++ (x.text ++ t)) (x :: xs)

/-- Layout before the lexemes. -/
theorem Tiles.layout (hs : s.IsLayout) (h : Tiles index (offset + s.size) t xs) :
    Tiles index offset (s ++ t) xs := by
  cases h with
  | done ht => exact .done (hs.append ht)
  | lexeme hgap htext hstart hposition h =>
    rw [← List.append_assoc]
    exact .lexeme (hs.append hgap) htext (by rw [hstart, Text.size_append, Nat.add_assoc])
      hposition h

/-- A lexeme right at the beginning. -/
theorem Tiles.cons (htext : x.text ≠ []) (hstart : x.start = offset)
    (hposition : x.position = index.position x.start) (h : Tiles index x.stop t xs) :
    Tiles index offset (x.text ++ t) (x :: xs) :=
  .lexeme .nil htext hstart hposition h

/-- **The lexemes of a text tile it.** -/
theorem tiles_scanFrom (index : LineIndex) (offset : Nat) (t : Text) :
    Tiles index offset t (scanFrom index offset t) := by
  -- The recursion of the scanner drops one piece at a time.
  fun_induction scanFrom index offset t with
  | case1 => exact .done .nil
  | case2 offset c t shape more hfirst piece ih =>
    have htext : c :: t = piece ++ t.drop more := by
      rw [List.cons_append, List.take_append_drop]
    rw [htext]
    cases shape with
    | layout => exact .layout (Shape.isLayout_of_first hfirst) ih
    | token kind =>
      exact .cons (x := ⟨some kind, offset, piece, index.position offset⟩) (List.cons_ne_nil _ _)
        rfl rfl ih
    | invalid =>
      exact .cons (x := ⟨none, offset, piece, index.position offset⟩) (List.cons_ne_nil _ _)
        rfl rfl ih

namespace Tiles

/-- **Where a lexeme stands in the text.** -/
theorem exists_cut (h : Tiles index offset t xs) (hx : x ∈ xs) :
    ∃ pre post, t = pre ++ (x.text ++ post) ∧ x.start = offset + pre.size ∧ x.text ≠ [] ∧
      x.position = index.position x.start := by
  induction h with
  | done => cases hx
  | @lexeme offset gap t y ys _ htext hstart hposition _ ih =>
    rcases List.mem_cons.mp hx with rfl | hx
    · exact ⟨gap, t, rfl, hstart, htext, hposition⟩
    · obtain ⟨pre, post, rfl, hplace, hne, hpos⟩ := ih hx
      refine ⟨gap ++ (y.text ++ pre), post, by simp only [List.append_assoc], ?_, hne, hpos⟩
      rw [hplace, stop, hstart, Text.size_append, Text.size_append, Nat.add_assoc, Nat.add_assoc]

/-- **Each lexeme ends before the next one begins.** -/
theorem pairwise (h : Tiles index offset t xs) : xs.Pairwise fun x y => x.stop ≤ y.start := by
  induction h with
  | done => exact .nil
  | lexeme _ _ _ _ h ih =>
    refine List.pairwise_cons.mpr ⟨fun y hy => ?_, ih⟩
    obtain ⟨pre, post, -, hstart, -⟩ := h.exists_cut hy
    omega

end Tiles

/-- **A lexeme cuts its source.** -/
theorem exists_cut (h : x ∈ scanAll source) :
    ∃ pre post, source = pre ++ (x.text ++ post) ∧ x.start = pre.size ∧ x.text ≠ [] := by
  obtain ⟨pre, post, hsource, hstart, hne, -⟩ := (tiles_scanFrom _ 0 source).exists_cut h
  exact ⟨pre, post, hsource, by rw [hstart, Nat.zero_add], hne⟩

/-- A lexeme ends before the next one begins. -/
theorem pairwise_scanAll (source : Text) :
    (scanAll source).Pairwise fun x y => x.stop ≤ y.start :=
  (tiles_scanFrom _ 0 source).pairwise

/-- **A comment that nothing closes**: no token, and all that is left of the source. -/
structure IsOpenComment (source : Text) (x : Lexeme) : Prop where
  token : x.token = none
  text : Shape.OpensComment x.text
  stop : x.stop = source.size

/-- A comment that nothing closes is all that is left of the source. -/
theorem isOpenComment_of_first {pre u : Text} {c : Char} {more : Nat}
    (hsource : source = pre ++ c :: u) (hfirst : Shape.first c u = (x.shape, more))
    (hstart : x.start = pre.size) (htext : x.text = c :: u.take more)
    (hopen : Shape.OpensComment (c :: u)) : x.IsOpenComment source := by
  rw [Shape.first_of_opensComment hopen] at hfirst
  obtain ⟨hshape, rfl⟩ := Prod.mk.inj hfirst
  rw [List.take_length] at htext
  refine ⟨?_, htext ▸ hopen, ?_⟩
  · cases htoken : x.token with
    | none => rfl
    | some kind => simp [shape, htoken] at hshape
  · rw [Lexeme.stop, hstart, htext, hsource, Text.size_append]

/-- **A lexeme stands on one line**, unless it is a comment between slash and star marks. -/
theorem isPlain_or_comment (h : x ∈ scanAll source) :
    x.text.IsPlain ∨ x.token = some .blockComment ∨ x.IsOpenComment source := by
  obtain ⟨pre, c, u, more, hsource, hfirst, hstart, htext, -⟩ := exists_first h
  rcases Shape.isPlain_or_comment hfirst with hplain | hlayout | hclosed | hopen
  · exact Or.inl (htext ▸ hplain)
  · cases htoken : x.token <;> simp [shape, htoken] at hlayout
  · exact Or.inr (Or.inl (shape_eq_token_iff.mp hclosed))
  · rw [Nat.zero_add] at hstart
    exact Or.inr (Or.inr (isOpenComment_of_first hsource hfirst hstart htext hopen))

/-- **The lexemes of a source tile it**: they stand one behind the other, and there is nothing but
layout before, between and behind them. Each one has a character, begins and ends at boundaries of
the source, and stands at the position of its first byte; both the offsets and the positions
increase. A lexeme with a line terminator is a block comment, or a comment that nothing closes. The
lexemes for parsing are all of them but the comments. -/
theorem tiling_scanAll (source : Text) :
    let index := LineIndex.ofText source
    Tiles index 0 source (scanAll source) ∧
      (∀ x ∈ scanAll source, x.start < x.stop ∧ x.stop ≤ source.size ∧
        source.isBoundary x.start = true ∧ source.isBoundary x.stop = true ∧
        source.slice x.start x.stop = x.text ∧ x.position = index.position x.start ∧
        (x.text.IsPlain ∨ x.token = some .blockComment ∨ x.IsOpenComment source)) ∧
      (scanAll source).Pairwise (fun x y => x.stop ≤ y.start ∧ x.position < y.position) ∧
      scan source = (scanAll source).filter fun x => !x.isComment := by
  intro index
  have htiles := tiles_scanFrom index 0 source
  have hplace (x : Lexeme) (hx : x ∈ scanAll source) :
      x.start < x.stop ∧ x.position = index.position x.start := by
    obtain ⟨pre, post, -, -, hne, hposition⟩ := htiles.exists_cut hx
    have hsize := mt Text.size_eq_zero_iff.mp hne
    exact ⟨by rw [stop]; omega, hposition⟩
  refine ⟨htiles, ?_, ?_, rfl⟩
  · intro x hx
    obtain ⟨hlt, hposition⟩ := hplace x hx
    obtain ⟨pre, post, hsource, hstart, -, -⟩ := htiles.exists_cut hx
    have hend := Text.isBoundary_append (pre ++ x.text) post
    rw [List.append_assoc, Text.size_append] at hend
    rw [Nat.zero_add] at hstart
    refine ⟨hlt, ?_, ?_, ?_, ?_, hposition, isPlain_or_comment hx⟩
    · rw [stop, hstart, hsource, Text.size_append, Text.size_append]
      omega
    · rw [hstart, hsource]
      exact Text.isBoundary_append pre _
    · rwa [stop, hstart, hsource]
    · rw [stop, hstart, hsource]
      exact Text.slice_append pre x.text post
  · refine htiles.pairwise.imp_of_mem ?_
    intro x y hx hy hle
    obtain ⟨hlt, hpx⟩ := hplace x hx
    obtain ⟨-, hpy⟩ := hplace y hy
    rw [hpx, hpy]
    exact ⟨hle, LineIndex.position_lt source (Nat.lt_of_lt_of_le hlt hle)⟩

end Lexeme

end GrammarWorkbench
