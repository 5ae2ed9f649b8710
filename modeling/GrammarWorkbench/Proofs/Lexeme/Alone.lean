import GrammarWorkbench.Proofs.Lexeme.Tiling

/-!
# A lexeme by itself

How long a piece is depends on the text behind it, which may go on in a way that makes the piece
longer. What the piece is does not: cut off where it ends, the text begins with the same piece
(`GrammarWorkbench.Shape.first_take`). This is shown rule by rule. The rules that look behind the
end of their piece are those for what is not closed. A literal in double quotes stops before a
backslash that the end of the line follows, and a quote with a backslash goes on to the end of the
line when no quote closes it; both do the same when the text ends there.

So the token of a lexeme is a function of its text alone: **a source that is the text of a lexeme
has that lexeme only** (`GrammarWorkbench.Lexeme.scanAll_of_first`), and two lexemes with one text
have one token, even in two sources (`GrammarWorkbench.Lexeme.token_eq_of_text_eq`).
-/

namespace GrammarWorkbench

/-! ### Pieces without the text behind them -/

namespace Shape

variable {c : Char} {t : Text} {shape : Shape} {kind : Token} {depth n more : Nat}

/-- A run that is cut off. -/
theorem run_take (p : Char → Bool) (n : Nat) (t : Text) : run p (t.take n) = min n (run p t) := by
  induction t generalizing n with
  | nil => simp [run]
  | cons c t ih =>
    cases n with
    | zero => simp [run]
    | succ n =>
      by_cases hc : p c = true
      · have hrun (t : Text) : run p (c :: t) = run p t + 1 := by simp [run, hc]
        rw [List.take_succ_cons, hrun, hrun, ih, Nat.add_min_add_right]
      · have hrun (t : Text) : run p (c :: t) = 0 := by simp [run, hc]
        rw [List.take_succ_cons, hrun, hrun, Nat.min_zero]

theorem run_take_run (p : Char → Bool) (t : Text) : run p (t.take (run p t)) = run p t := by
  rw [run_take, Nat.min_self]

theorem stringBody_take (t : Text) : stringBody (t.take (stringBody t).1) = stringBody t := by
  fun_induction stringBody t with
  | case1 | case2 | case3 | case4 | case5 => rfl
  | case6 d t hd hquote hend ih =>
    change stringBody ('\\' :: d :: t.take (stringBody t).1) = _
    rw [stringBody.eq_def]
    simp only [if_neg hquote, if_neg hend, if_true, if_neg hd, ih]
  | case7 c t hquote hend hescape ih =>
    change stringBody (c :: t.take (stringBody t).1) = _
    rw [stringBody.eq_def]
    simp only [if_neg hquote, if_neg hend, if_neg hescape, ih]

theorem cons_of_take {u : Text} (h : t.take n = c :: u) : t = c :: (u ++ t.drop n) := by
  rw [← List.cons_append, ← h, List.take_append_drop]

theorem commentBody_take (h : commentBody depth t = some n) :
    commentBody depth (t.take n) = some n := by
  fun_induction commentBody depth t generalizing n with
  | case1 depth t ih =>
    obtain ⟨m, hbody, rfl⟩ := Option.map_eq_some_iff.mp h
    change commentBody depth ('/' :: '*' :: t.take m) = _
    rw [commentBody, ih hbody]
    rfl
  | case2 t =>
    cases h
    rfl
  | case3 t depth ih =>
    obtain ⟨m, hbody, rfl⟩ := Option.map_eq_some_iff.mp h
    change commentBody (depth + 1) ('*' :: '/' :: t.take m) = _
    rw [commentBody, ih hbody]
    rfl
  | case4 depth c t hopen hclose ih =>
    obtain ⟨m, hbody, rfl⟩ := Option.map_eq_some_iff.mp h
    change commentBody depth (c :: t.take m) = _
    rw [commentBody, ih hbody]
    · rfl
    · intro u hc htake
      exact hopen _ hc (cons_of_take htake)
    · intro u hc htake
      exact hclose _ hc (cons_of_take htake)
  | case5 => cases h

theorem ofMark_take (h : ofMark c t = some (kind, n)) : ofMark c (t.take n) = some (kind, n) := by
  unfold ofMark at h
  split at h <;> cases h
  all_goals rfl

theorem ofMark_eq_none_iff :
    ofMark c t = none ↔ c ∉ "=.+-|()[]\x7b\x7d<>,".toList := by
  unfold ofMark
  split
  all_goals simp_all

theorem ofMark_nil (h : ofMark c t = none) : ofMark c [] = none :=
  ofMark_eq_none_iff.mpr (ofMark_eq_none_iff.mp h)

/-- **A piece stays what it is without the text behind it.** -/
theorem Rule.take (h : Rule c t shape more) : Rule c (t.take more) shape more := by
  cases h with
  | space hc => exact .space hc
  | pragma =>
    have hrule := Rule.pragma (t := t.take (run isPragma t))
    rwa [run_take_run] at hrule
  | word hc =>
    have hrule := Rule.word (t := t.take (run Text.isWord t)) hc
    rwa [run_take_run, List.take_take, Nat.min_self] at hrule
  | number hword hc =>
    have hrule := Rule.number (t := t.take (run Text.isDigit t)) hword hc
    rwa [run_take_run] at hrule
  | string hbody =>
    have htake := stringBody_take t
    rw [hbody] at htake
    exact .string htake
  | badString hbody =>
    have htake := stringBody_take t
    rw [hbody] at htake
    exact .badString htake
  | char hquote hescape hc => exact .char hquote hescape hc
  | @escape c t hc hclosed =>
    have hrun : run isQuoted (t.take (run isQuoted t + 1)) = run isQuoted t := by
      rw [run_take, Nat.min_eq_right (Nat.le_succ _)]
    have hrule := Rule.escape (t := t.take (run isQuoted t + 1)) hc (by
      rw [hrun, List.getElem?_take_of_lt (Nat.lt_succ_self _), hclosed])
    rwa [hrun] at hrule
  | @openEscape c t hc hopen =>
    have hrun := run_take_run isQuoted t
    have hrule := Rule.openEscape (t := t.take (run isQuoted t)) hc (by
      rw [hrun, List.getElem?_take_eq_none (Nat.le_refl _)]
      exact nofun)
    rwa [hrun] at hrule
  | quote => exact .quote nofun nofun
  | @lineComment t =>
    have hrule := Rule.lineComment (t := t.take (run (fun c => !isTerminator c) t))
    rwa [run_take_run] at hrule
  | blockComment hbody => exact .blockComment (commentBody_take hbody)
  | @openComment t hopen =>
    rw [List.take_succ_cons, List.take_length]
    exact .openComment hopen
  | slash => exact .slash nofun nofun
  | mark hmark => exact .mark (ofMark_take hmark)
  | blank hc h => exact .blank { hc with notMark := ofMark_nil hc.notMark } h
  | other hc h => exact .other { hc with notMark := ofMark_nil hc.notMark } h

theorem first_take (h : first c t = (shape, more)) : first c (t.take more) = (shape, more) :=
  first_of_rule (rule_of_first h).take

end Shape

/-! ### Words that are no names -/

namespace Token

/-- A name is no keyword. -/
theorem spelling?_ne_of_ofWord {word : Text} {kind : Token} (h : ofWord word = .ident)
    (hkind : kind.isKeyword = true) : kind.spelling? ≠ some word := by
  intro hspelling
  have hmem : kind ∈ keywords := List.contains_iff_mem.mp hkind
  cases hfind : ofKeyword? word with
  | none =>
    have hnone := List.find?_eq_none.mp hfind kind hmem
    exact hnone (by simp [hspelling])
  | some k =>
    have hident : k = .ident := by
      rwa [ofWord, hfind, Option.getD_some] at h
    have hk := List.mem_of_find?_eq_some hfind
    rw [hident] at hk
    exact absurd hk (by decide)

end Token

/-! ### Lexemes by themselves -/

namespace Lexeme

variable {source source' : Text} {x y : Lexeme}

/-- **The text of a lexeme has that lexeme only.** -/
theorem scanAll_of_first {c : Char} {u : Text} {more : Nat}
    (h : Shape.first c u = (x.shape, more)) (htext : x.text = c :: u.take more) :
    scanAll x.text = [⟨x.token, 0, x.text, ⟨1, 1⟩⟩] := by
  have htake : (u.take more).take more = u.take more := by rw [List.take_take, Nat.min_self]
  have hdrop : (u.take more).drop more = [] :=
    List.drop_eq_nil_of_le (List.length_take_le more u)
  have hend (index : LineIndex) (offset : Nat) : scanFrom index offset [] = [] := by rw [scanFrom]
  have hplace : (LineIndex.ofText x.text).position 0 = ⟨1, 1⟩ := by
    rw [LineIndex.position, LineIndex.locate_zero]
  have hpiece : ofShape? (.ofText x.text) 0 x.shape x.text =
      some ⟨x.token, 0, x.text, ⟨1, 1⟩⟩ := by
    cases htoken : x.token <;> simp [shape, htoken, ofShape?, hplace]
  rw [htext] at hpiece ⊢
  rw [scanAll, scanFrom, Shape.first_take h]
  simp only [htake, hdrop, hend, hpiece, List.append_nil, Option.toList_some]

/-- **The token of a lexeme is a function of its text**, whatever the sources are. -/
theorem token_eq_of_text_eq (hx : x ∈ scanAll source) (hy : y ∈ scanAll source')
    (h : x.text = y.text) : x.token = y.token := by
  obtain ⟨-, c, u, more, -, hfirst, -, htext, -⟩ := exists_first hx
  obtain ⟨-, c', u', more', -, hfirst', -, htext', -⟩ := exists_first hy
  have halone := scanAll_of_first hfirst htext
  rw [h, scanAll_of_first hfirst' htext'] at halone
  exact (congrArg token (List.cons.inj halone).1).symm

/-- **A lexeme by itself**: a source that is the text of a lexeme has that lexeme only, with the
same token or the same lack of one. A name has the spelling of no keyword, and it is followed by no
letter, digit or underscore. -/
theorem scanAll_text (source : Text) : ∀ x ∈ scanAll source,
    scanAll x.text = [⟨x.token, 0, x.text, ⟨1, 1⟩⟩] ∧
      (x.token = some .ident →
        (∀ kind : Token, kind.isKeyword = true → kind.spelling? ≠ some x.text) ∧
          (source.dropBytes x.stop).head?.any Text.isWord = false) := by
  intro x hx
  obtain ⟨pre, c, u, more, hsource, hfirst, hstart, htext, -⟩ := exists_first hx
  refine ⟨scanAll_of_first hfirst htext, fun hident => ?_⟩
  rw [shape_eq_token_iff.mpr hident] at hfirst
  obtain ⟨-, hmore, hword⟩ := Shape.first_eq_ident hfirst
  constructor
  · intro kind hkind
    rw [htext]
    exact Token.spelling?_ne_of_ofWord hword hkind
  · have hcut : source = (pre ++ x.text) ++ u.drop more := by
      rw [hsource, htext, List.append_assoc, List.cons_append, List.take_append_drop]
    have hstop : x.stop = (pre ++ x.text).size := by
      rw [stop, hstart, Nat.zero_add, Text.size_append]
    rw [hstop, hcut, Text.dropBytes_size, hmore]
    exact Shape.head?_drop_run Text.isWord u

/-- A literal that is cut off before the backslash at the end of its line, and a name that begins
like a keyword right after a number. -/
theorem scanAll_text_cut_off :
    let source : Text := "\"a\\\r\n12END_1+".toList
    let x : Lexeme := ⟨some .badString, 0, "\"a".toList, ⟨1, 1⟩⟩
    let y : Lexeme := ⟨some .ident, 7, "END_1".toList, ⟨2, 3⟩⟩
    (x ∈ scanAll source ∧ scanAll x.text = [x]) ∧
      y ∈ scanAll source ∧ scanAll y.text = [⟨some .ident, 0, y.text, ⟨1, 1⟩⟩] ∧
        (∀ kind : Token, kind.isKeyword = true → kind.spelling? ≠ some y.text) ∧
          (source.dropBytes y.stop).head?.any Text.isWord = false := by
  intro source x y
  have hx : x ∈ scanAll source := by decide +kernel
  have hy : y ∈ scanAll source := by decide +kernel
  obtain ⟨halone, -⟩ := scanAll_text source x hx
  obtain ⟨hname, hends⟩ := scanAll_text source y hy
  exact ⟨⟨hx, halone⟩, hy, hname, hends rfl⟩

end Lexeme

end GrammarWorkbench
