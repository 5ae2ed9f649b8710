import GrammarWorkbench.Proofs.Lexeme.Alone

/-!
# The longest reading wins

The tokens of the grammar language are given by rules that look at nothing but the text of a piece:
a fixed spelling, or a class of texts (`GrammarWorkbench.Shape.Fits`). A piece should be the longest
beginning of the text that fits a rule, and a keyword rather than a name if it fits both
(`GrammarWorkbench.Shape.IsLongest`). The chain of conditions by which a piece is found does not try
the rules one by one. That it finds the longest reading all the same has two sides.

* **What is found fits its rule** (`GrammarWorkbench.Shape.Rule.fits`), way by way through the
  chain.
* **What fits a rule is beaten by what is found** (`GrammarWorkbench.Shape.beats_of_fits`), rule by
  rule.

There is one exception. A comment is opened by its first two characters, whatever follows, and when
nothing closes it the whole rest of the text is no token, although its first character alone is one.
-/

namespace GrammarWorkbench

namespace Shape

variable {c d : Char} {s t p : Text} {shape shape' : Shape} {kind : Token} {depth n more : Nat}

/-! ### The rules of the tokens -/

/-- **The inside of a literal in double quotes**: characters of one line, and pairs of a backslash
and the character that it takes along. -/
inductive IsStringBody : Text → Prop
  | nil : IsStringBody []
  | char {c : Char} {t : Text} (hquote : c ≠ '"') (hescape : c ≠ '\\')
      (hc : isTerminator c = false) (h : IsStringBody t) : IsStringBody (c :: t)
  | escape {c : Char} {t : Text} (hc : isTerminator c = false) (h : IsStringBody t) :
      IsStringBody ('\\' :: c :: t)

/-- **The rest of a block comment** inside `depth` further comments: its marks are read from left to
right, and the last one closes the outermost comment. -/
inductive Closes : Nat → Text → Prop
  | close : Closes 0 ['*', '/']
  | leave {depth : Nat} {t : Text} (h : Closes depth t) : Closes (depth + 1) ('*' :: '/' :: t)
  | enter {depth : Nat} {t : Text} (h : Closes (depth + 1) t) : Closes depth ('/' :: '*' :: t)
  | skip {depth : Nat} {c : Char} {t : Text} (henter : c = '/' → t.head? ≠ some '*')
      (hleave : c = '*' → t.head? ≠ some '/') (h : Closes depth t) : Closes depth (c :: t)

/-- **The rules of the tokens and of layout**: which texts are pieces of a shape. White space is
read one character at a time. -/
inductive Fits : Shape → Text → Prop
  | space {c : Char} (hc : isLayout c = true) : Fits .layout [c]
  | pragma {w : Text} (hw : ∀ d ∈ w, isPragma d = true) : Fits .layout ('$' :: w)
  | spelled {kind : Token} {t : Text} (h : kind.spelling? = some t) : Fits (.token kind) t
  | ident {c : Char} {w : Text} (hc : Text.startsWord c = true)
      (hw : ∀ d ∈ w, Text.isWord d = true) : Fits (.token .ident) (c :: w)
  | number {c : Char} {w : Text} (hc : Text.isDigit c = true)
      (hw : ∀ d ∈ w, Text.isDigit d = true) : Fits (.token .number) (c :: w)
  | string {w : Text} (hw : IsStringBody w) : Fits (.token .string) ('"' :: (w ++ ['"']))
  | badString {w : Text} (hw : IsStringBody w) : Fits (.token .badString) ('"' :: w)
  | char {c : Char} (hquote : c ≠ '\'') (hescape : c ≠ '\\') (hc : isTerminator c = false) :
      Fits (.token .char) ['\'', c, '\'']
  | escape {c : Char} {w : Text} (hc : isTerminator c = false)
      (hw : ∀ d ∈ w, isQuoted d = true) :
      Fits (.token .char) ('\'' :: '\\' :: c :: (w ++ ['\'']))
  | blockComment {w : Text} (hw : Closes 0 w) : Fits (.token .blockComment) ('/' :: '*' :: w)
  | lineComment {w : Text} (hw : ∀ d ∈ w, isTerminator d = false) :
      Fits (.token .lineComment) ('/' :: '/' :: w)
  | slash : Fits (.token .other) ['/']
  | other {c : Char} (hword : Text.isWord c = false) (hblank : Text.isBlank c = false)
      (hc : c ∉ "\"'.()[]\x7b\x7d<>=+-|$,/".toList) : Fits (.token .other) [c]

/-- **Which of two shapes wins** for one text: a keyword, and not a name. -/
def GivesWay (shape' shape : Shape) : Prop :=
  shape' = shape ∨
    shape' = .token .ident ∧ ∃ kind : Token, kind.isKeyword = true ∧ shape = .token kind

/-- **The longest reading of a text**: a beginning of it that fits a rule, such that no longer one
fits any rule, and that wins over the other rules that it fits. -/
structure IsLongest (t : Text) (shape : Shape) (piece : Text) : Prop where
  isPrefix : piece <+: t
  fits : Fits shape piece
  longest : ∀ shape' p, p <+: t → Fits shape' p → p.length ≤ piece.length
  wins : ∀ shape', Fits shape' piece → GivesWay shape' shape

/-! ### Runs, literals and comments -/

/-- A run that goes on behind a text. -/
theorem run_append {q : Char → Bool} (hs : ∀ d ∈ s, q d = true) (t : Text) :
    run q (s ++ t) = s.length + run q t := by
  rw [run, List.takeWhile_append_of_pos hs, List.length_append]
  rfl

theorem run_le_length (q : Char → Bool) (t : Text) : run q t ≤ t.length :=
  (List.takeWhile_prefix q).length_le

theorem run_cons_of_neg {q : Char → Bool} (hc : q c = false) (t : Text) : run q (c :: t) = 0 := by
  simp [run, hc]

/-- A literal in double quotes that goes on behind a text. -/
theorem stringBody_append (hs : IsStringBody s) (t : Text) :
    stringBody (s ++ t) = ((stringBody t).1 + s.length, (stringBody t).2) := by
  induction hs with
  | nil => rfl
  | @char c s hquote hescape hc _ ih =>
    rw [List.cons_append, stringBody.eq_def]
    simp only [if_neg hquote, hc, Bool.false_eq_true, if_false, if_neg hescape, ih,
      List.length_cons, Nat.add_assoc]
  | @escape c s hc _ ih =>
    have hquote : '\\' ≠ '"' := by decide
    have hend : isTerminator '\\' = false := by decide
    rw [List.cons_append, List.cons_append, stringBody.eq_def]
    simp only [if_neg hquote, hend, Bool.false_eq_true, if_false, if_true, hc, ih,
      List.length_cons, Nat.add_assoc]

/-- What is read of a literal in double quotes is its inside, and its closing quote if there is
one. -/
theorem exists_isStringBody (t : Text) : ∃ w, IsStringBody w ∧
    t.take (stringBody t).1 = if (stringBody t).2 then w ++ ['"'] else w := by
  fun_induction stringBody t with
  | case1 | case3 | case4 | case5 => exact ⟨[], .nil, rfl⟩
  | case2 => exact ⟨[], .nil, rfl⟩
  | case6 d t hd _ _ ih =>
    obtain ⟨w, hw, htake⟩ := ih
    refine ⟨'\\' :: d :: w, .escape (eq_false_of_ne_true hd) hw, ?_⟩
    rw [List.take_succ_cons, List.take_succ_cons, htake]
    split <;> rfl
  | case7 c t hquote hend hescape ih =>
    obtain ⟨w, hw, htake⟩ := ih
    refine ⟨c :: w, .char hquote hescape (eq_false_of_ne_true hend) hw, ?_⟩
    rw [List.take_succ_cons, htake]
    split <;> rfl

theorem stringBody_le_length (t : Text) : (stringBody t).1 ≤ t.length := by
  fun_induction stringBody t with
  | case1 | case3 | case4 | case5 => exact Nat.zero_le _
  | case2 => exact Nat.le_add_left _ _
  | case6 _ _ _ _ _ ih => exact Nat.add_le_add_right ih 2
  | case7 _ _ _ _ _ ih => exact Nat.add_le_add_right ih 1

/-- The closing quote of a literal counts. -/
theorem stringBody_pos (h : (stringBody t).2 = true) : 0 < (stringBody t).1 := by
  obtain ⟨w, -, htake⟩ := exists_isStringBody t
  rw [h, if_pos rfl] at htake
  by_contra hzero
  rw [Nat.eq_zero_of_not_pos hzero, List.take_zero] at htake
  simp at htake

/-- The rest of a block comment has at least its closing mark. -/
theorem ne_nil_of_closes (h : Closes depth s) : s ≠ [] := by
  cases h <;> exact List.cons_ne_nil _ _

/-- **The rest of a comment is found**, whatever follows. -/
theorem commentBody_append (hs : Closes depth s) (t : Text) :
    commentBody depth (s ++ t) = some s.length := by
  induction hs with
  | close => rfl
  | leave _ ih | enter _ ih =>
    rw [List.cons_append, List.cons_append, commentBody, ih]
    rfl
  | @skip depth c s henter hleave h ih =>
    obtain ⟨d, s, rfl⟩ := List.exists_cons_of_ne_nil (ne_nil_of_closes h)
    rw [List.cons_append, commentBody, ih]
    · rfl
    · rintro u rfl hu
      exact henter rfl (congrArg some (List.cons.inj hu).1)
    · rintro u rfl hu
      exact hleave rfl (congrArg some (List.cons.inj hu).1)

theorem closes_take (h : commentBody depth t = some n) : Closes depth (t.take n) := by
  fun_induction commentBody depth t generalizing n with
  | case1 depth t ih =>
    obtain ⟨m, hbody, rfl⟩ := Option.map_eq_some_iff.mp h
    exact .enter (ih hbody)
  | case2 t =>
    cases h
    exact .close
  | case3 t depth ih =>
    obtain ⟨m, hbody, rfl⟩ := Option.map_eq_some_iff.mp h
    exact .leave (ih hbody)
  | case4 depth c t hopen hclose ih =>
    obtain ⟨m, hbody, rfl⟩ := Option.map_eq_some_iff.mp h
    refine .skip ?_ ?_ (ih hbody)
    · rintro rfl hstar
      obtain ⟨u, hu⟩ := List.head?_eq_some_iff.mp hstar
      exact hopen _ rfl (cons_of_take hu)
    · rintro rfl hslash
      obtain ⟨u, hu⟩ := List.head?_eq_some_iff.mp hslash
      exact hclose _ rfl (cons_of_take hu)
  | case5 => cases h

/-! ### Fixed spellings -/

/-- A keyword is a word, and the token of its spelling. -/
theorem exists_of_isKeyword (hkind : kind.isKeyword = true) (h : kind.spelling? = some p) :
    ∃ c w, p = c :: w ∧ Text.startsWord c = true ∧ (∀ d ∈ w, Text.isWord d = true) ∧
      Token.ofWord p = kind := by
  have hkeywords : ∀ kind ∈ Token.keywords, ∀ p ∈ kind.spelling?,
      (p.head?.any Text.startsWord && p.all Text.isWord && Token.ofWord p == kind) = true := by
    decide +kernel
  have hword := hkeywords kind (List.contains_iff_mem.mp hkind) p h
  rw [Bool.and_eq_true, Bool.and_eq_true, beq_iff_eq] at hword
  obtain ⟨⟨hstart, hall⟩, hof⟩ := hword
  cases p with
  | nil => cases hstart
  | cons c w =>
    rw [List.all_cons, Bool.and_eq_true] at hall
    exact ⟨c, w, rfl, hstart, List.all_eq_true.mp hall.2, hof⟩

/-- A mark has one character or two, and two are told from their first one. -/
theorem mark_cases (hkind : kind.isKeyword = false) (h : kind.spelling? = some p) :
    (∃ c ∈ "=.+-|()[]\x7b\x7d<>,".toList, p = [c]) ∨
      ∃ c d, p = [c, d] ∧ ∀ t, ofMark c (d :: t) = some (kind, 1) := by
  cases kind <;> first
    | exact absurd hkind (by decide)
    | cases h
      exact Or.inl ⟨_, by decide, rfl⟩
    | cases h
      exact Or.inr ⟨_, _, rfl, fun _ => rfl⟩
    | cases h

theorem spelling?_ofMark (h : ofMark c t = some (kind, n)) :
    kind.spelling? = some (c :: t.take n) := by
  unfold ofMark at h
  split at h <;> cases h <;> rfl

/-- A word is a keyword or a name. -/
theorem fits_ofWord {w : Text} (hc : Text.startsWord c = true)
    (hw : ∀ d ∈ w, Text.isWord d = true) : Fits (.token (.ofWord (c :: w))) (c :: w) := by
  rw [Token.ofWord]
  cases hfind : Token.ofKeyword? (c :: w) with
  | none => exact .ident hc hw
  | some kind =>
    have hspelling := List.find?_some hfind
    exact .spelled (by simpa using hspelling)

theorem givesWay_ofWord (w : Text) : GivesWay (.token .ident) (.token (.ofWord w)) := by
  rw [Token.ofWord]
  cases hfind : Token.ofKeyword? w with
  | none => exact Or.inl rfl
  | some kind =>
    have hmem := List.mem_of_find?_eq_some hfind
    exact Or.inr ⟨rfl, kind, List.contains_iff_mem.mpr hmem, rfl⟩

/-! ### What is found fits its rule -/

/-- A piece ends no later than its text. -/
theorem Rule.le_length (h : Rule c t shape more) : more ≤ t.length := by
  cases h with
  | space | quote | slash | blank | other => exact Nat.zero_le _
  | pragma | word | number => exact run_le_length _ _
  | string hbody | badString hbody =>
    have hle := stringBody_le_length t
    rwa [hbody] at hle
  | char => exact Nat.le_add_left _ _
  | escape _ hclosed =>
    obtain ⟨hlt, -⟩ := List.getElem?_eq_some_iff.mp hclosed
    simp only [List.length_cons]
    omega
  | openEscape => exact Nat.add_le_add_right (run_le_length _ _) 2
  | lineComment => exact Nat.succ_le_succ (run_le_length _ _)
  | @blockComment t n hbody =>
    -- The rest of a closed comment is as long as it should be.
    have hclosed := commentBody_append (closes_take hbody) (t.drop n)
    rw [List.take_append_drop, hbody, List.length_take] at hclosed
    have hlength := Option.some.inj hclosed
    simp only [List.length_cons]
    omega
  | openComment => exact Nat.le_refl _
  | mark hmark =>
    unfold ofMark at hmark
    split at hmark <;> cases hmark
    all_goals simp

/-- **What is found fits its rule.** -/
theorem Rule.fits (h : Rule c t shape more) (hshape : shape ≠ .invalid) :
    Fits shape (c :: t.take more) := by
  cases h with
  | space hc => exact .space hc
  | pragma => exact .pragma fun d hd => of_mem_take_run hd
  | word hc => exact fits_ofWord hc fun d hd => of_mem_take_run hd
  | number _ hc => exact .number hc fun d hd => of_mem_take_run hd
  | string hbody =>
    obtain ⟨w, hw, htake⟩ := exists_isStringBody t
    rw [hbody] at htake
    exact htake ▸ .string hw
  | badString hbody =>
    obtain ⟨w, hw, htake⟩ := exists_isStringBody t
    rw [hbody] at htake
    exact htake ▸ .badString hw
  | char hquote hescape hc => exact .char hquote hescape hc
  | @escape c t hc hclosed =>
    have htake : t.take (run isQuoted t + 1) = t.take (run isQuoted t) ++ ['\''] := by
      rw [List.take_add_one, hclosed]
      rfl
    rw [List.take_succ_cons, List.take_succ_cons, htake]
    exact .escape hc fun d hd => of_mem_take_run hd
  | lineComment => exact .lineComment fun d hd => by simpa using of_mem_take_run hd
  | blockComment hbody => exact .blockComment (closes_take hbody)
  | slash => exact .slash
  | mark hmark => exact .spelled (spelling?_ofMark hmark)
  | other hc hblank =>
    have hmark := ofMark_eq_none_iff.mp hc.notMark
    have hopening := hc.notOpening
    exact .other hc.notWord hblank (by simp_all)
  | openEscape | quote | openComment | blank => exact absurd rfl hshape

/-! ### What fits a rule is not longer -/

/-- What fits a rule is layout or a token. -/
theorem Fits.ne_invalid (h : Fits shape p) : shape ≠ .invalid := by
  cases h <;> exact Shape.noConfusion

/-- **What is found beats a reading** of the beginning `p` of the text `c :: t`. -/
def Beats (c : Char) (t : Text) (shape' : Shape) (p : Text) : Prop :=
  ∃ shape more, Rule c t shape more ∧ shape ≠ .invalid ∧ p.length ≤ more + 1 ∧
    (p.length = more + 1 → GivesWay shape' shape)

/-- A piece of the same shape. -/
theorem Rule.beats (h : Rule c t shape more) (hshape : shape ≠ .invalid)
    (hle : p.length ≤ more + 1) : Beats c t shape p :=
  ⟨shape, more, h, hshape, hle, fun _ => Or.inl rfl⟩

/-- A longer piece. -/
theorem Rule.beats_of_lt (h : Rule c t (.token kind) more) (hlt : p.length < more + 1) :
    Beats c t shape p :=
  ⟨.token kind, more, h, Shape.noConfusion, hlt.le, fun heq => absurd heq hlt.ne⟩

theorem isBlank_of_isLayout (h : isLayout c = true) : Text.isBlank c = true := by
  simp only [isLayout, Bool.or_eq_true, beq_iff_eq] at h
  rcases h with (((rfl | rfl) | rfl) | rfl) | rfl <;> decide

theorem beats_keyword (hkind : kind.isKeyword = true) (hspelling : kind.spelling? = some p)
    (t : Text) : ∃ c u, p ++ t = c :: u ∧ Beats c u (.token kind) p := by
  obtain ⟨c, w, rfl, hc, hw, hof⟩ := exists_of_isKeyword hkind hspelling
  refine ⟨c, w ++ t, rfl, _, _, .word hc, Shape.noConfusion, ?_, fun hlength => Or.inl ?_⟩
  · rw [run_append hw, List.length_cons]
    omega
  · rw [List.length_cons, Nat.add_right_cancel_iff] at hlength
    rw [← hlength, List.take_left, hof]

theorem beats_mark (hkind : kind.isKeyword = false) (hspelling : kind.spelling? = some p)
    (t : Text) : ∃ c u, p ++ t = c :: u ∧ Beats c u (.token kind) p := by
  rcases mark_cases hkind hspelling with ⟨c, hc, rfl⟩ | ⟨c, d, rfl, hmark⟩
  · have hsome : ofMark c t ≠ none := mt ofMark_eq_none_iff.mp (not_not.mpr hc)
    obtain ⟨⟨kind', n⟩, hmark⟩ := Option.ne_none_iff_exists'.mp hsome
    refine ⟨c, t, rfl, _, _, .mark hmark, Shape.noConfusion, Nat.le_add_left _ _, ?_⟩
    intro hlength
    -- The mark that is found has one character too, and it is spelled the same.
    obtain rfl : n = 0 := by simpa using hlength.symm
    have hspelling' := spelling?_ofMark hmark
    rw [List.take_zero, ← hspelling] at hspelling'
    rw [Token.eq_of_spelling? hspelling' (by rw [hspelling', hspelling]; rfl)]
    exact Or.inl rfl
  · exact ⟨c, d :: t, rfl, (Rule.mark (hmark t)).beats Shape.noConfusion (Nat.le_refl _)⟩

/-- **What fits a rule is beaten by what is found**, unless it begins a comment that nothing
closes. -/
theorem beats_of_fits (hfit : Fits shape p) (hp : p <+: c :: t) (hopen : ¬OpensComment (c :: t)) :
    Beats c t shape p := by
  have hvalid := hfit.ne_invalid
  obtain ⟨s, hs⟩ := hp
  cases hfit
  case spelled kind hspelling =>
    obtain ⟨c', u, hu, hbeats⟩ : ∃ c' u, p ++ s = c' :: u ∧ Beats c' u (.token kind) p := by
      cases hkind : kind.isKeyword with
      | true => exact beats_keyword hkind hspelling s
      | false => exact beats_mark hkind hspelling s
    obtain ⟨rfl, rfl⟩ := List.cons.inj (hu.symm.trans hs)
    exact hbeats
  all_goals
    simp only [List.cons_append, List.append_assoc, List.nil_append, List.cons.injEq] at hs
    obtain ⟨rfl, rfl⟩ := hs
  case space hc => exact (Rule.space hc).beats hvalid (Nat.le_refl _)
  case pragma w hw =>
    refine Rule.pragma.beats hvalid ?_
    rw [run_append hw, List.length_cons]
    omega
  case ident w hc hw =>
    refine ⟨_, _, .word hc, Shape.noConfusion, ?_, fun _ => givesWay_ofWord _⟩
    rw [run_append hw, List.length_cons]
    omega
  case number c w hc hw =>
    have hword : Text.startsWord c = false := by
      by_contra hstart
      rw [Text.isDigit_of_startsWord (eq_true_of_ne_false hstart)] at hc
      cases hc
    refine (Rule.number hword hc).beats hvalid ?_
    rw [run_append hw, List.length_cons]
    omega
  case string w hw =>
    have hbody := stringBody_append hw ('"' :: s)
    have hquote : stringBody ('"' :: s) = (1, true) := by
      rw [stringBody.eq_def]
      rfl
    rw [hquote] at hbody
    refine (Rule.string hbody).beats hvalid ?_
    rw [List.length_cons, List.length_append, List.length_singleton]
    omega
  case badString w hw =>
    have hbody := stringBody_append hw s
    cases hclosed : (stringBody s).2 with
    | false =>
      rw [hclosed] at hbody
      refine (Rule.badString hbody).beats hvalid ?_
      rw [List.length_cons]
      omega
    | true =>
      -- The literal is closed later.
      have hpos := stringBody_pos hclosed
      rw [hclosed] at hbody
      refine (Rule.string hbody).beats_of_lt ?_
      rw [List.length_cons]
      omega
  case char c hquote hescape hc =>
    exact (Rule.char hquote hescape hc).beats hvalid (Nat.le_refl _)
  case escape c w hc hw =>
    have hrun : run isQuoted (w ++ '\'' :: s) = w.length := by
      rw [run_append hw, run_cons_of_neg (by decide), Nat.add_zero]
    have hclosed : (w ++ '\'' :: s)[run isQuoted (w ++ '\'' :: s)]? = some '\'' := by
      rw [hrun]
      simp
    refine (Rule.escape hc hclosed).beats hvalid ?_
    rw [hrun]
    simp
  case blockComment w hw =>
    exact (Rule.blockComment (commentBody_append hw s)).beats hvalid (Nat.le_refl _)
  case lineComment w hw =>
    refine Rule.lineComment.beats hvalid ?_
    rw [run_append (by simpa using hw), List.length_cons, List.length_cons]
    omega
  case slash =>
    by_cases hslash : s.head? = some '/'
    · obtain ⟨u, rfl⟩ := List.head?_eq_some_iff.mp hslash
      exact Rule.lineComment.beats_of_lt (by simp)
    by_cases hstar : s.head? = some '*'
    · obtain ⟨u, rfl⟩ := List.head?_eq_some_iff.mp hstar
      cases hbody : commentBody 0 u with
      | none => exact absurd ⟨u, rfl, hbody⟩ hopen
      | some n => exact (Rule.blockComment hbody).beats_of_lt (by simp)
    exact (Rule.slash hslash hstar).beats hvalid (Nat.le_refl _)
  case other c hword hblank hc =>
    have hstray : Stray c s := by
      refine ⟨?_, hword, ofMark_eq_none_iff.mpr ?_, ?_⟩
      · by_contra hspace
        rw [isBlank_of_isLayout (eq_true_of_ne_false hspace)] at hblank
        cases hblank
      · simp_all
      · simp_all
    exact (Rule.other hstray hblank).beats hvalid (Nat.le_refl _)

/-! ### The longest reading -/

/-- **The piece that is found is the longest reading**, if it is layout or a token. -/
theorem isLongest_of_first (h : first c t = (shape, more)) (hshape : shape ≠ .invalid) :
    IsLongest (c :: t) shape (c :: t.take more) := by
  have hrule := rule_of_first h
  have hlength : (c :: t.take more).length = more + 1 := by
    rw [List.length_cons, List.length_take, Nat.min_eq_left hrule.le_length]
  have hopen : ¬OpensComment (c :: t) := by
    intro hopen
    rw [first_of_opensComment hopen] at h
    exact hshape (congrArg Prod.fst h).symm
  have hfound {shape' : Shape} {p : Text} (hfit : Fits shape' p) (hp : p <+: c :: t) :
      p.length ≤ more + 1 ∧ (p.length = more + 1 → GivesWay shape' shape) := by
    obtain ⟨_, _, hrule', -, hle, hwins⟩ := beats_of_fits hfit hp hopen
    obtain ⟨rfl, rfl⟩ := hrule.unique hrule'
    exact ⟨hle, hwins⟩
  have hpiece : c :: t.take more <+: c :: t :=
    (List.prefix_cons_inj c).mpr (List.take_prefix more t)
  refine ⟨hpiece, hrule.fits hshape, ?_, ?_⟩
  · intro shape' p hp hfit
    rw [hlength]
    exact (hfound hfit hp).1
  · intro shape' hfit
    exact (hfound hfit hpiece).2 hlength

/-- **A text with an invalid piece** begins a comment that nothing closes, or else no beginning of
it fits any rule. -/
theorem not_fits_of_first (h : first c t = (.invalid, more)) (hopen : ¬OpensComment (c :: t))
    (hp : p <+: c :: t) : ¬Fits shape p := by
  intro hfit
  obtain ⟨_, _, hrule, hvalid, -, -⟩ := beats_of_fits hfit hp hopen
  exact hvalid (hrule.unique (rule_of_first h)).1

end Shape

namespace Lexeme

/-- **The lexemes of a source are the longest readings of its text.** At its place, each one is the
longest beginning of the text that fits a rule, and it has the token of that rule; for a text that
fits two rules, this is the keyword and not the name. A lexeme without a token stands where no text
fits a rule, or it is a comment that nothing closes. -/
theorem longest_scanAll (source : Text) : ∀ x ∈ scanAll source, ∃ pre post,
    source = pre ++ (x.text ++ post) ∧ x.start = pre.size ∧
      ((∃ kind, x.token = some kind ∧
          Shape.IsLongest (x.text ++ post) (.token kind) x.text) ∨
        x.token = none ∧ (x.IsOpenComment source ∨
          ∀ shape p, p <+: x.text ++ post → ¬Shape.Fits shape p)) := by
  intro x hx
  obtain ⟨pre, c, u, more, hsource, hfirst, hstart, htext, -⟩ := exists_first hx
  rw [Nat.zero_add] at hstart
  have hrest : c :: u = x.text ++ u.drop more := by
    rw [htext, List.cons_append, List.take_append_drop]
  refine ⟨pre, u.drop more, by rw [← hrest, hsource], hstart, ?_⟩
  rw [← hrest]
  cases htoken : x.token with
  | some kind =>
    rw [shape_eq_token_iff.mpr htoken] at hfirst
    exact Or.inl ⟨kind, rfl, htext ▸ Shape.isLongest_of_first hfirst Shape.noConfusion⟩
  | none =>
    refine Or.inr ⟨rfl, ?_⟩
    by_cases hopen : Shape.OpensComment (c :: u)
    · exact Or.inl (isOpenComment_of_first hsource hfirst hstart htext hopen)
    · have hshape : x.shape = .invalid := by rw [shape, htoken]; rfl
      rw [hshape] at hfirst
      exact Or.inr fun shape p hp => Shape.not_fits_of_first hfirst hopen hp

end Lexeme

end GrammarWorkbench
