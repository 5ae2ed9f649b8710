import GrammarWorkbench.Proofs.Lexeme.Order
import GrammarWorkbench.Proofs.Lexeme.Spelling

/-!
# The edges of a name

A name goes on as far as it can, so that no letter, digit or underscore stands right after it. On
its left side this is not so: a text is cut into pieces from left to right, and a piece may stop
before a letter although it ends with a word character itself. There are only two such pieces, a
**number** and a **pragma** (`GrammarWorkbench.Shape.number_or_pragma`): `12ab` is a number and a
name, and `$ab_c` is a pragma and a name.

To speak of pragmas, which are no lexemes, a source is cut into all its pieces
(`GrammarWorkbench.Piece.ofSource`), of which its lexemes are some
(`GrammarWorkbench.Lexeme.scan_eq_filterMap`).
-/

namespace GrammarWorkbench

theorem Text.isPlain_of_isWord {t : Text} (h : ∀ c ∈ t, isWord c = true) : t.IsPlain := by
  intro c hc
  have hword := h c hc
  constructor <;> rintro rfl <;> exact absurd hword (by decide)

/-! ### The last character of a piece -/

namespace Shape

variable {c d : Char} {t : Text} {shape : Shape} {more : Nat}

/-- **A piece is sealed** if it ends with no word character, or else no word begins after it. -/
def Sealed (c : Char) (t : Text) (more : Nat) : Prop :=
  (c :: t.take more).getLast?.any Text.isWord = false ∨
    (t.drop more).head?.any Text.startsWord = false

theorem sealed_zero (h : Text.isWord c = false) : Sealed c t 0 :=
  Or.inl (by simpa using h)

/-- A piece is sealed by its last character. -/
theorem sealed_of_getLast? (h : (t.take more).getLast? = some d) (hd : Text.isWord d = false) :
    Sealed c t more :=
  Or.inl (by simp [List.getLast?_cons, h, hd])

/-- A run ends where its condition fails. -/
theorem head?_drop_run (p : Char → Bool) (t : Text) : (t.drop (run p t)).head?.any p = false := by
  induction t with
  | nil => rfl
  | cons c t ih =>
    by_cases hc : p c = true
    · have hrun : run p (c :: t) = run p t + 1 := by simp [run, hc]
      rwa [hrun, List.drop_succ_cons]
    · have hrun : run p (c :: t) = 0 := by simp [run, hc]
      rw [hrun, List.drop_zero, List.head?_cons, Option.any_some]
      exact eq_false_of_ne_true hc

theorem of_mem_take_run {p : Char → Bool} (h : d ∈ t.take (run p t)) : p d = true := by
  have htake : t.take (run p t) = t.takeWhile p :=
    (List.prefix_iff_eq_take.mp (List.takeWhile_prefix p)).symm
  exact List.mem_takeWhile_imp (htake ▸ h)

theorem isWord_of_isTerminator (h : isTerminator c = true) : Text.isWord c = false := by
  simp only [isTerminator, Bool.or_eq_true, beq_iff_eq] at h
  rcases h with rfl | rfl <;> decide

/-- A piece is sealed by the character after it. -/
theorem sealed_of_head? (h : (t.drop more).head?.any Text.isWord = false) : Sealed c t more := by
  right
  cases hdrop : (t.drop more).head? with
  | none => rfl
  | some d =>
    rw [hdrop, Option.any_some] at h
    rw [Option.any_some]
    by_contra hstart
    rw [Text.isWord_of_startsWord (eq_true_of_ne_false hstart)] at h
    cases h

/-- What ends no later than the line is sealed. -/
theorem sealed_of_isTerminator
    (h : ∀ d rest, t.drop more = d :: rest → isTerminator d = true ∨ d = '\\') :
    Sealed c t more := by
  refine sealed_of_head? ?_
  cases hdrop : t.drop more with
  | nil => rfl
  | cons d rest =>
    rcases h d rest hdrop with hd | rfl
    · exact isWord_of_isTerminator hd
    · rfl

/-- A literal in double quotes ends with its quote, or else before the end of the line or a
backslash. -/
theorem stringBody_cases (t : Text) :
    (t.take (stringBody t).1).getLast? = some '"' ∨
      ∀ d rest, t.drop (stringBody t).1 = d :: rest → isTerminator d = true ∨ d = '\\' := by
  fun_induction stringBody t with
  | case1 => right; simp
  | case2 t => left; simp
  | case3 c t _ hc =>
    right
    rintro d rest hdrop
    cases hdrop
    exact Or.inl hc
  | case4 | case5 =>
    right
    rintro d rest hdrop
    cases hdrop
    exact Or.inr rfl
  | case6 _ _ d t _ ih => exact ih.imp (fun h => by simp [List.getLast?_cons, h]) id
  | case7 c t _ _ _ ih => exact ih.imp (fun h => by simp [List.getLast?_cons, h]) id

/-- A closed comment ends with a slash. -/
theorem getLast?_commentBody {depth : Nat} (h : commentBody depth t = some more) :
    (t.take more).getLast? = some '/' := by
  fun_induction commentBody depth t generalizing more with
  | case2 t =>
    cases h
    rfl
  | case1 | case3 | case4 =>
    rename_i ih
    obtain ⟨n, hbody, rfl⟩ := Option.map_eq_some_iff.mp h
    simp [List.getLast?_cons, ih hbody]
  | case5 => cases h

theorem sealed_ofMark {kind : Token} (h : ofMark c t = some (kind, more)) : Sealed c t more := by
  unfold ofMark at h
  split at h <;> cases h
  all_goals exact Or.inl rfl

/-- **The pieces that may be followed by a word** although they end with a word character. -/
theorem number_or_pragma (h : first c t = (shape, more)) :
    Sealed c t more ∨ shape = .token .number ∨ shape = .layout ∧ c = '$' ∧ 0 < more := by
  cases rule_of_first h with
  | space hc => exact Or.inl (sealed_zero (isWord_of_isLayout hc))
  | pragma =>
    rcases Nat.eq_zero_or_pos (run isPragma t) with hzero | hpos
    · rw [hzero]
      exact Or.inl (sealed_zero (by decide))
    · exact Or.inr (Or.inr ⟨rfl, rfl, hpos⟩)
  -- A word goes on as long as there are word characters.
  | word => exact Or.inl (sealed_of_head? (head?_drop_run Text.isWord t))
  | number => exact Or.inr (Or.inl rfl)
  | string hbody | badString hbody =>
    left
    have hcases := stringBody_cases t
    rw [hbody] at hcases
    rcases hcases with hquote | hend
    · exact sealed_of_getLast? hquote (by decide)
    · exact sealed_of_isTerminator hend
  | char => exact Or.inl (sealed_of_getLast? (d := '\'') (by simp) (by decide))
  | @escape _ t _ hclosed =>
    left
    refine sealed_of_getLast? (d := '\'') ?_ (by decide)
    simp [List.take_add_one, hclosed, List.getLast?_cons]
  | @openEscape _ t _ hopen =>
    -- The text after the backslash goes on to the end of the line.
    left
    refine sealed_of_isTerminator ?_
    intro e rest hdrop
    have hdrop : t.drop (run isQuoted t) = e :: rest := hdrop
    have hrun := head?_drop_run isQuoted t
    have hne : e ≠ '\'' := by
      rintro rfl
      exact hopen (by rw [← List.head?_drop, hdrop]; rfl)
    rw [hdrop] at hrun
    left
    simpa [isQuoted, hne] using hrun
  | @lineComment t =>
    left
    refine sealed_of_isTerminator ?_
    intro d rest hdrop
    have hdrop : t.drop (run (fun c => !isTerminator c) t) = d :: rest := hdrop
    have hrun := head?_drop_run (fun c => !isTerminator c) t
    rw [hdrop] at hrun
    left
    simpa using hrun
  | blockComment hbody =>
    left
    refine sealed_of_getLast? (d := '/') ?_ (by decide)
    simp [List.getLast?_cons, getLast?_commentBody hbody]
  | openComment => exact Or.inl (Or.inr (by simp))
  | mark hmark => exact Or.inl (sealed_ofMark hmark)
  | quote | slash => exact Or.inl (sealed_zero (by decide))
  | blank hc | other hc => exact Or.inl (sealed_zero hc.notWord)

/-- **A name is a longest word**, and no keyword. -/
theorem first_eq_ident (h : first c t = (.token .ident, more)) :
    Text.startsWord c = true ∧ more = run Text.isWord t ∧
      Token.ofWord (c :: t.take more) = .ident := by
  have hrule := rule_of_first h
  generalize hshape : Shape.token .ident = shape at hrule
  cases hrule with
  | word hc => exact ⟨hc, rfl, (Shape.token.inj hshape).symm⟩
  | mark hmark =>
    cases hshape
    cases isSymbol_ofMark hmark
  | _ => cases hshape

end Shape

/-! ### The pieces of a source -/

/-- A piece of a source: its shape, its text, and the byte offset of its first character. -/
structure Piece where
  start : Nat
  shape : Shape
  text : Text
deriving DecidableEq, Repr

namespace Piece

variable {offset : Nat} {t source : Text} {p q : Piece} {before after : List Piece}

/-- The byte offset after the last character. -/
def stop (p : Piece) : Nat :=
  p.start + p.text.size

/-- The pieces of the text that begins at `offset` of a source. -/
def ofText (offset : Nat) : Text → List Piece
  | [] => []
  | c :: t =>
    let (shape, more) := Shape.first c t
    let text := c :: t.take more
    ⟨offset, shape, text⟩ :: ofText (offset + Text.size text) (t.drop more)
termination_by t => t.length
decreasing_by
  simp only [List.length_drop, List.length_cons]
  omega

/-- **All pieces of a source**, layout and comments included. -/
def ofSource (source : Text) : List Piece :=
  ofText 0 source

/-- Whether a piece is a pragma with letters or digits after its dollar sign. -/
def isPragma (p : Piece) : Bool :=
  p.shape == .layout && p.text.head? == some '$' && 1 < p.text.length

/-- **Whether a pragma ends right before a position.** -/
def endsPragma (source : Text) (place : Position) : Bool :=
  (ofSource source).any fun p => p.isPragma && (LineIndex.ofText source).position p.stop == place

/-- The first piece of a text, and the pieces after it. -/
theorem ofText_eq_cons (h : ofText offset t = p :: after) :
    ∃ c u more, t = c :: u ∧ Shape.first c u = (p.shape, more) ∧ p.start = offset ∧
      p.text = c :: u.take more ∧ ofText p.stop (u.drop more) = after := by
  cases t with
  | nil => simp [ofText] at h
  | cons c u =>
    rw [ofText] at h
    obtain ⟨rfl, rfl⟩ := List.cons.inj h
    exact ⟨c, u, (Shape.first c u).2, rfl, rfl, rfl, rfl, rfl⟩

/-- The text of some pieces. -/
def joined (ps : List Piece) : Text :=
  ps.flatMap text

@[simp]
theorem joined_cons (p : Piece) (ps : List Piece) : joined (p :: ps) = p.text ++ joined ps := rfl

@[simp]
theorem joined_append (ps qs : List Piece) : joined (ps ++ qs) = joined ps ++ joined qs :=
  List.flatMap_append

/-- **What stands before a piece** are the pieces before it. -/
theorem ofText_eq_append (h : ofText offset t = before ++ p :: after) :
    ∃ u, t = joined before ++ u ∧ p.start = offset + (joined before).size ∧
      ofText p.start u = p :: after := by
  induction before generalizing offset t with
  | nil =>
    obtain ⟨c, u, more, rfl, hfirst, hstart, htext, hafter⟩ := ofText_eq_cons h
    exact ⟨c :: u, rfl, hstart, hstart ▸ h⟩
  | cons q before ih =>
    obtain ⟨c, u, more, rfl, hfirst, hstart, htext, hafter⟩ := ofText_eq_cons h
    obtain ⟨v, hv, hplace, hrest⟩ := ih hafter
    refine ⟨v, ?_, ?_, hrest⟩
    · rw [joined_cons, htext, List.append_assoc, ← hv, List.cons_append, List.take_append_drop]
    · rw [hplace, stop, hstart, joined_cons, Text.size_append, Nat.add_assoc]

/-- **What stands before a word** ends with no word character, or it is a number or a pragma. -/
theorem number_or_isPragma (h : ofText offset t = before ++ p :: after)
    (hword : p.text.head?.any Text.startsWord = true)
    (hlast : (joined before).getLast?.any Text.isWord = true) :
    ∃ ps q, before = ps ++ [q] ∧ q.stop = p.start ∧
      (q.shape = .token .number ∨ q.isPragma = true) := by
  rcases List.eq_nil_or_concat before with rfl | ⟨ps, q, rfl⟩
  · cases hlast
  rw [List.concat_eq_append, List.append_assoc] at h
  obtain ⟨u, -, -, hu⟩ := ofText_eq_append h
  obtain ⟨c, v, more, rfl, hfirst, -, htext, hv⟩ := ofText_eq_cons hu
  obtain ⟨d, w, more', hd, -, hstart, hnext, -⟩ := ofText_eq_cons hv
  refine ⟨ps, q, List.concat_eq_append, hstart.symm, ?_⟩
  have hjoined : (joined (ps.concat q)).getLast? = (c :: v.take more).getLast? := by
    rw [List.concat_eq_append, joined_append, ← htext, List.getLast?_append_of_ne_nil]
    · simp [joined]
    · simp [joined, htext]
  rw [hjoined] at hlast
  rcases Shape.number_or_pragma hfirst with hsealed | hnumber | ⟨hlayout, rfl, hmore⟩
  · -- A word begins after it, so that it cannot end with a word character.
    rcases hsealed with hend | hbegin
    · rw [hend] at hlast
      cases hlast
    · rw [hnext] at hword
      rw [hd] at hbegin
      exact absurd hword (by simpa using hbegin)
  · exact Or.inl hnumber
  · right
    have hlength : v.length - more = w.length + 1 := by simpa using congrArg List.length hd
    have hbody : 0 < min more v.length := by omega
    simpa [isPragma, hlayout, htext] using hbody

end Piece

namespace Lexeme

/-- The lexeme that a piece is, if it is one and no comment. -/
def ofPiece? (index : LineIndex) (p : Piece) : Option Lexeme :=
  (ofShape? index p.start p.shape p.text).filter (!·.isComment)

theorem scanFrom_eq_filterMap (index : LineIndex) (offset : Nat) (t : Text) :
    scanFrom index offset t =
      (Piece.ofText offset t).filterMap fun p => ofShape? index p.start p.shape p.text := by
  fun_induction scanFrom index offset t with
  | case1 => simp [Piece.ofText]
  | case2 offset c t shape more hfirst text ih =>
    rw [Piece.ofText, hfirst, List.filterMap_cons, ih]
    cases ofShape? index offset shape text <;> rfl

/-- **The lexemes of a source are some of its pieces.** -/
theorem scan_eq_filterMap (source : Text) :
    scan source = (Piece.ofSource source).filterMap (ofPiece? (.ofText source)) := by
  rw [scan, scanAll, scanFrom_eq_filterMap, List.filter_filterMap]
  rfl

variable {source : Text} {before after : List Lexeme} {x : Lexeme}

/-- The piece that a lexeme is. -/
theorem exists_piece (h : scan source = before ++ x :: after) :
    ∃ ps p qs, Piece.ofSource source = ps ++ p :: qs ∧
      ps.filterMap (ofPiece? (.ofText source)) = before ∧
      ofPiece? (.ofText source) p = some x := by
  rw [scan_eq_filterMap] at h
  obtain ⟨ps, rest, hpieces, hbefore, hrest⟩ := List.filterMap_eq_append_iff.mp h
  obtain ⟨skipped, p, qs, rfl, hskipped, hp, -⟩ := List.filterMap_eq_cons_iff.mp hrest
  refine ⟨ps ++ skipped, p, qs, by simp [hpieces], ?_, hp⟩
  rw [List.filterMap_append, hbefore, List.filterMap_eq_nil_iff.mpr hskipped, List.append_nil]

theorem ofPiece?_eq_some {index : LineIndex} {p : Piece} (h : ofPiece? index p = some x) :
    x.text = p.text ∧ x.position = index.position p.start ∧
      ∀ kind, x.token = some kind → p.shape = .token kind := by
  obtain ⟨hpiece, -⟩ := Option.filter_eq_some_iff.mp h
  obtain ⟨hshape, -, htext, hposition⟩ := ofShape?_eq_some hpiece
  exact ⟨htext, hposition, fun kind hkind => hshape ▸ shape_eq_token_iff.mpr hkind⟩

/-- The token of the last one of some lexemes. -/
def lastToken (xs : List Lexeme) : Option Token :=
  xs.getLast?.bind token

@[simp]
theorem lastToken_concat (xs : List Lexeme) (x : Lexeme) : lastToken (xs ++ [x]) = x.token := by
  simp [lastToken]

/-- **A name between its neighbours**: it is a longest word to the right. To the left it is one as
well, unless a number or a pragma ends where it begins. -/
theorem exists_cut_of_ident (h : scan source = before ++ x :: after)
    (hident : x.token = some .ident) :
    ∃ pre post, source = pre ++ (x.text ++ post) ∧
      x.position = (LineIndex.ofText source).position pre.size ∧
      (∀ c ∈ x.text, Text.isWord c = true) ∧
      post.head?.any Text.isWord = false ∧
      (pre.getLast?.any Text.isWord = true →
        lastToken before = some .number ∨
          Piece.endsPragma source x.position = true) := by
  obtain ⟨ps, p, qs, hpieces, hbefore, hp⟩ := exists_piece h
  obtain ⟨htext, hposition, hshape⟩ := ofPiece?_eq_some hp
  have hshape := hshape .ident hident
  obtain ⟨u, hsource, hstart, hu⟩ := Piece.ofText_eq_append hpieces
  obtain ⟨c, v, more, rfl, hfirst, -, hpiece, -⟩ := Piece.ofText_eq_cons hu
  rw [hshape] at hfirst
  obtain ⟨hc, hmore, -⟩ := Shape.first_eq_ident hfirst
  rw [Nat.zero_add] at hstart
  refine ⟨Piece.joined ps, v.drop more, ?_, ?_, ?_, ?_, ?_⟩
  · rw [htext, hpiece, List.cons_append, List.take_append_drop, hsource]
  · rw [hposition, hstart]
  · rw [htext, hpiece, hmore]
    intro d hd
    rcases List.mem_cons.mp hd with rfl | hd
    · exact Text.isWord_of_startsWord hc
    · exact Shape.of_mem_take_run hd
  · rw [hmore]
    exact Shape.head?_drop_run Text.isWord v
  · intro hlast
    obtain ⟨ps, q, rfl, hstop, hq⟩ := Piece.number_or_isPragma hpieces (hpiece ▸ hc) hlast
    rcases hq with hnumber | hpragma
    · left
      have hlexeme : ofPiece? (.ofText source) q =
          some ⟨some .number, q.start, q.text, (LineIndex.ofText source).position q.start⟩ := by
        simp [ofPiece?, hnumber, ofShape?, isComment, Token.isComment]
      simp [lastToken, ← hbefore, hlexeme]
    · right
      refine List.any_eq_true.mpr ⟨q, by simp [hpieces], ?_⟩
      simp [hpragma, hstop, hposition]

end Lexeme

end GrammarWorkbench
