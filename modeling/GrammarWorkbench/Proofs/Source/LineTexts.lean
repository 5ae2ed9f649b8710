import GrammarWorkbench.Editor.Document
import GrammarWorkbench.Proofs.PositionMap.TraceBack
import GrammarWorkbench.Proofs.Source.Cuts

/-!
# A text is its lines

A line index knows where lines start. Here a text is cut into its lines, each with its start, its
content and the terminator after it (`GrammarWorkbench.Line.ofText`). Put one after the other they
are the text again (`GrammarWorkbench.Line.flatMap_text_ofText`), and they are the lines that the
index and a document know (`GrammarWorkbench.Line.map_start_ofText`,
`GrammarWorkbench.Document.content?_ofText`). A piece of a text that holds no terminator stands in
the content of one of them, at its position (`GrammarWorkbench.Line.exists_of_isPlain`).

What lies between two offsets of a text is its **window** (`GrammarWorkbench.Text.window`). Windows
go along with cuts: the window of a text in two pieces is the windows of the pieces
(`GrammarWorkbench.Text.window_append`). So the window of a text is made of the windows of its
lines, and all that is lost with the terminators are terminators
(`GrammarWorkbench.Line.flatMap_part_ofText`).
-/

namespace GrammarWorkbench

/-! ### Windows -/

namespace Text

variable {t : Text} {m n : Nat}

/-- Bytes of two pieces are taken from the first one, and then from the second one. -/
theorem takeBytes_append_sub (n : Nat) (a b : Text) :
    takeBytes n (a ++ b) = takeBytes n a ++ takeBytes (n - a.size) b := by
  induction a generalizing n with
  | nil => rfl
  | cons c a ih =>
    rw [List.cons_append, takeBytes, takeBytes, size_cons, ← Nat.sub_sub]
    split
    · rw [ih, List.cons_append]
    next h => rw [Nat.sub_eq_zero_of_le (by omega), takeBytes_zero, List.append_nil]

theorem dropBytes_append_sub (n : Nat) (a b : Text) :
    dropBytes n (a ++ b) = dropBytes n a ++ dropBytes (n - a.size) b := by
  induction a generalizing n with
  | nil => rfl
  | cons c a ih =>
    rw [List.cons_append, dropBytes, dropBytes, size_cons, ← Nat.sub_sub]
    split
    · exact ih _
    next h => rw [Nat.sub_eq_zero_of_le (by omega), dropBytes_zero, List.cons_append]

/-- **What lies between two offsets** of a text that begins at `offset`. -/
def window (offset start stop : Nat) (t : Text) : Text :=
  dropBytes (start - offset) (takeBytes (stop - offset) t)

/-- **The window of a text in two pieces.** -/
theorem window_append (offset start stop : Nat) (a b : Text) :
    window offset start stop (a ++ b) =
      window offset start stop a ++ window (offset + a.size) start stop b := by
  rw [window, window, window, takeBytes_append_sub, dropBytes_append_sub, Nat.sub_add_eq stop]
  rcases Nat.lt_or_ge (stop - offset) a.size with hlt | hge
  · -- The window ends in the first piece.
    rw [Nat.sub_eq_zero_of_le (Nat.le_of_lt hlt), takeBytes_zero]
    rfl
  · rw [takeBytes_of_size_le hge, Nat.sub_add_eq start]

theorem mem_of_mem_window {c : Char} {offset start stop : Nat}
    (h : c ∈ window offset start stop t) : c ∈ t := by
  have htake := takeBytes_append_dropBytes (stop - offset) t
  have hdrop := takeBytes_append_dropBytes (start - offset) (takeBytes (stop - offset) t)
  rw [← htake, ← hdrop]
  exact List.mem_append_left _ (List.mem_append_right _ h)

/-- A window with its edges at two cuts. -/
theorem window_of_cut (pre x post : Text) :
    window 0 pre.size (pre.size + x.size) (pre ++ (x ++ post)) = x := by
  have hpre : window 0 pre.size (pre.size + x.size) pre = [] := by
    rw [window, takeBytes_of_size_le (by omega), dropBytes_of_size_le (by omega)]
  have hx : window pre.size pre.size (pre.size + x.size) x = x := by
    rw [window, takeBytes_of_size_le (by omega), Nat.sub_self, dropBytes_zero]
  have hpost : window (pre.size + x.size) pre.size (pre.size + x.size) post = [] := by
    rw [window, Nat.sub_self, takeBytes_zero]
    rfl
  rw [window_append, window_append, Nat.zero_add, hpre, hx, hpost, List.append_nil,
    List.nil_append]

end Text

/-! ### Lines -/

/-- A line of a text: the byte offset at which it starts, its content, and what ends it. -/
structure Line where
  start : Nat
  content : Text
  ending : Text
deriving DecidableEq, Repr

namespace LineIndex

variable {part stop rest : Text}

theorem startsBefore_of_isPlain (h : part.IsPlain) (offset : Nat) (rest : Text) :
    startsBefore offset part rest = [] := by
  induction part generalizing offset with
  | nil => rfl
  | cons c part ih =>
    obtain ⟨hc, hpart⟩ := List.forall_mem_cons.mp h
    have hends : endsLine c (part ++ rest) = false := by simp [endsLine, hc]
    rw [startsBefore, hends, if_neg Bool.false_ne_true, ih hpart]

theorem startsBefore_of_terminates (h : Terminates stop rest) (offset : Nat) :
    startsBefore offset stop rest = [offset + stop.size] := by
  rcases h with rfl | rfl | ⟨rfl, h⟩
  · simp [startsBefore, endsLine, Nat.add_assoc]
  · simp [startsBefore, endsLine]
  · simp [startsBefore, endsLine, h]

/-- The first line of a text, and the lines after it. -/
theorem startsFrom_line (hpart : part.IsPlain) (hstop : Terminates stop rest) (offset : Nat) :
    startsFrom offset (part ++ (stop ++ rest)) =
      (offset + part.size + stop.size) :: startsFrom (offset + part.size + stop.size) rest := by
  rw [startsFrom_append, startsBefore_of_isPlain hpart, startsFrom_append,
    startsBefore_of_terminates hstop]
  rfl

end LineIndex

namespace Line

variable {l : Line} {ls before after : List Line} {t : Text} {offset start stop : Nat}

/-- A line with what ends it. -/
def text (l : Line) : Text :=
  l.content ++ l.ending

/-- The byte offset after the content. -/
def contentStop (l : Line) : Nat :=
  l.start + l.content.size

/-- Lines one after the other. -/
def place (offset : Nat) : List (Text × Text) → List Line
  | [] => []
  | (content, ending) :: rest =>
    ⟨offset, content, ending⟩ :: place (offset + content.size + ending.size) rest

/-- **The lines of a text.** -/
def ofText (t : Text) : List Line :=
  place 0 (TrackedOutput.splitLines t)

/-- A line that is what it should be: no terminator is in its content, and nothing else ends it. -/
structure WellFormed (l : Line) : Prop where
  content : l.content.IsPlain
  ending : ∀ c ∈ l.ending, Shape.isTerminator c = true

theorem isTerminator_of_terminates {stop rest : Text} (h : LineIndex.Terminates stop rest) :
    ∀ c ∈ stop, Shape.isTerminator c = true := by
  rcases h with rfl | rfl | ⟨rfl, -⟩ <;> simp [Shape.isTerminator]

/-- **The lines of a text are a reading of the text**: they are well formed, they make up the text,
and they start where the line index says. -/
theorem place_splitLines (offset : Nat) (t : Text) :
    (∀ l ∈ place offset (TrackedOutput.splitLines t), l.WellFormed) ∧
      (place offset (TrackedOutput.splitLines t)).flatMap text = t ∧
      (place offset (TrackedOutput.splitLines t)).map Line.start =
        offset :: LineIndex.startsFrom offset t := by
  -- A line is cut off in front, so that the induction is on the length of the text.
  induction hn : t.length using Nat.strongRecOn generalizing t offset with
  | ind n ih =>
    subst hn
    rcases TrackedOutput.splitLines_cases t with
      ⟨hlines, hplain⟩ | ⟨part, ending, rest, rfl, hlines, hpart, hending⟩
    · have hstarts : LineIndex.startsFrom offset t = [] := by
        have := LineIndex.startsFrom_append offset t []
        rw [List.append_nil, LineIndex.startsBefore_of_isPlain hplain] at this
        exact this
      rw [hlines, hstarts]
      refine ⟨?_, by simp [place, text], rfl⟩
      intro l hl
      obtain rfl : l = ⟨offset, t, []⟩ := by simpa [place] using hl
      exact ⟨hplain, by simp⟩
    · have hlength : 0 < ending.length := by
        rcases hending with rfl | rfl | ⟨rfl, -⟩ <;> simp
      obtain ⟨hwell, htext, hstarts⟩ := ih rest.length (by simp only [List.length_append]; omega)
        (offset + part.size + ending.size) rest rfl
      rw [hlines, place]
      refine ⟨?_, ?_, ?_⟩
      · intro l hl
        rcases List.mem_cons.mp hl with rfl | hl
        · exact ⟨hpart, isTerminator_of_terminates hending⟩
        · exact hwell l hl
      · rw [List.flatMap_cons, htext, text, List.append_assoc]
      · rw [List.map_cons, hstarts, LineIndex.startsFrom_line hpart hending]

theorem wellFormed_of_mem (h : l ∈ ofText t) : l.WellFormed :=
  (place_splitLines 0 t).1 l h

theorem flatMap_text_ofText (t : Text) : (ofText t).flatMap text = t :=
  (place_splitLines 0 t).2.1

theorem map_start_ofText (t : Text) : (ofText t).map Line.start = (LineIndex.ofText t).starts :=
  (place_splitLines 0 t).2.2

/-- A line starts where the lines before it end. -/
theorem place_eq_append {pairs : List (Text × Text)}
    (h : place offset pairs = before ++ l :: after) :
    l.start = offset + Text.size (before.flatMap text) := by
  induction before generalizing offset pairs with
  | nil =>
    cases pairs with
    | nil => cases h
    | cons pair pairs =>
      obtain ⟨rfl, -⟩ := List.cons.inj h
      rfl
  | cons b before ih =>
    cases pairs with
    | nil => cases h
    | cons pair pairs =>
      obtain ⟨rfl, hrest⟩ := List.cons.inj h
      rw [ih hrest, List.flatMap_cons, text, Text.size_append, Text.size_append]
      dsimp only
      omega

/-- **A line cuts its text**, and the next line starts at its end, if there is one. -/
theorem exists_cut {k : Nat} (h : (ofText t)[k]? = some l) :
    ∃ pre post, t = pre ++ (l.text ++ post) ∧ l.start = pre.size ∧
      ((ofText t)[k + 1]?.map Line.start).getD t.size = l.start + l.text.size := by
  obtain ⟨hk, hl⟩ := List.getElem?_eq_some_iff.mp h
  have hlines : ofText t = (ofText t).take k ++ l :: (ofText t).drop (k + 1) := by
    rw [← hl, List.getElem_cons_drop, List.take_append_drop]
  have hstart : l.start = Text.size (((ofText t).take k).flatMap text) := by
    rw [place_eq_append hlines, Nat.zero_add]
  have htext : t = ((ofText t).take k).flatMap text ++
      (l.text ++ ((ofText t).drop (k + 1)).flatMap text) := by
    rw [← List.flatMap_cons, ← List.flatMap_append, ← hlines, flatMap_text_ofText]
  refine ⟨_, _, htext, hstart, ?_⟩
  cases hnext : (ofText t)[k + 1]? with
  | none =>
    have hnil : (ofText t).drop (k + 1) = [] :=
      List.drop_eq_nil_iff.mpr (List.getElem?_eq_none_iff.mp hnext)
    have hsize := congrArg Text.size htext
    rw [hnil, List.flatMap_nil, List.append_nil, Text.size_append, ← hstart] at hsize
    exact hsize
  | some next =>
    obtain ⟨hk', hl'⟩ := List.getElem?_eq_some_iff.mp hnext
    have hlines' : ofText t = ((ofText t).take k ++ [l]) ++ next :: (ofText t).drop (k + 2) := by
      rw [List.append_assoc, List.singleton_append, ← hl', List.getElem_cons_drop, ← hlines]
    rw [Option.map_some, Option.getD_some, place_eq_append hlines', List.flatMap_append,
      Text.size_append, List.flatMap_singleton, ← hstart, Nat.zero_add]

/-- A line ends before the lines after it. -/
theorem pairwise_ofText (t : Text) :
    (ofText t).Pairwise fun l l' => l.start + l.text.size ≤ l'.start := by
  have hplace : ∀ (pairs : List (Text × Text)) (offset : Nat),
      (∀ l ∈ place offset pairs, offset ≤ l.start) ∧
        (place offset pairs).Pairwise fun l l' => l.start + l.text.size ≤ l'.start := by
    intro pairs
    induction pairs with
    | nil => simp [place]
    | cons pair pairs ih =>
      intro offset
      obtain ⟨hle, horder⟩ := ih (offset + pair.1.size + pair.2.size)
      constructor
      · intro l hl
        rcases List.mem_cons.mp hl with rfl | hl
        · exact Nat.le_refl _
        · have := hle l hl
          omega
      · refine List.pairwise_cons.mpr ⟨?_, horder⟩
        intro l hl
        have := hle l hl
        simp only [text, Text.size_append]
        omega
  exact (hplace _ 0).2

/-! ### Parts of lines -/

/-- What lies between two offsets of the content of a line. -/
def part (start stop : Nat) (l : Line) : Text :=
  l.content.window l.start start stop

/-- **The parts of the lines** between two offsets are what lies between them, without
terminators. -/
theorem flatMap_part_ofText (start stop : Nat) (t : Text) :
    (ofText t).flatMap (part start stop) =
      (t.window 0 start stop).filter (!Shape.isTerminator ·) := by
  have hplace : ∀ (pairs : List (Text × Text)) (offset : Nat),
      (∀ l ∈ place offset pairs, l.WellFormed) →
        (place offset pairs).flatMap (part start stop) =
          (Text.window offset start stop ((place offset pairs).flatMap text)).filter
            (!Shape.isTerminator ·) := by
    intro pairs
    induction pairs with
    | nil => intro offset _; rfl
    | cons pair pairs ih =>
      intro offset hwell
      obtain ⟨⟨hcontent, hending⟩, hwell⟩ := List.forall_mem_cons.mp hwell
      -- The content stays, and nothing of the terminator does.
      have hstays : (Text.window offset start stop pair.1).filter (!Shape.isTerminator ·) =
          Text.window offset start stop pair.1 := by
        refine List.filter_eq_self.mpr fun c hc => ?_
        simpa [Shape.isTerminator] using hcontent c (Text.mem_of_mem_window hc)
      have hgoes : (Text.window (offset + pair.1.size) start stop pair.2).filter
          (!Shape.isTerminator ·) = [] := by
        refine List.filter_eq_nil_iff.mpr fun c hc => ?_
        simpa using hending c (Text.mem_of_mem_window hc)
      rw [place, List.flatMap_cons, List.flatMap_cons, ih _ hwell, text, Text.window_append,
        Text.window_append, List.filter_append, List.filter_append, hstays, hgoes,
        List.append_nil, Text.size_append, Nat.add_assoc]
      rfl
  have h := hplace (TrackedOutput.splitLines t) 0 (place_splitLines 0 t).1
  rwa [(place_splitLines 0 t).2.1] at h

end Line

/-! ### The lines of a document -/

namespace Document

variable {t : Text} {k : Nat} {l : Line}

@[simp]
theorem text_ofText (t : Text) : (ofText t).text = t := rfl

@[simp]
theorem index_ofText (t : Text) : (ofText t).index = .ofText t := rfl

theorem lineCount_ofText (t : Text) :
    (LineIndex.ofText t).lineCount = (Line.ofText t).length := by
  rw [← List.length_map Line.start, Line.map_start_ofText]
  rfl

theorem lineStart?_ofText (t : Text) (k : Nat) :
    (LineIndex.ofText t).lineStart? k = (Line.ofText t)[k]?.map Line.start := by
  rw [← List.getElem?_map, Line.map_start_ofText]
  rfl

theorem dropTerminator_text (h : l.WellFormed) : dropTerminator l.text = l.content := by
  have hending : l.ending.reverse.dropWhile (fun c => c == '\r' || c == '\n') = [] := by
    refine List.dropWhile_eq_nil_iff.mpr fun c hc => ?_
    exact h.ending c (List.mem_reverse.mp hc)
  rw [dropTerminator, Line.text, List.reverse_append, List.dropWhile_append, hending]
  have hcontent : l.content.reverse.dropWhile (fun c => c == '\r' || c == '\n') =
      l.content.reverse := by
    refine List.dropWhile_eq_self_iff.mpr fun hlength => ?_
    have := h.content _ (List.mem_reverse.mp (List.getElem_mem hlength))
    simpa using this
  rw [List.isEmpty_nil, if_pos rfl, hcontent, List.reverse_reverse]

/-- **The content of a line** of a document. -/
theorem content?_ofText (t : Text) (k : Nat) :
    (ofText t).content? k = (Line.ofText t)[k]?.map fun l => (l.start, l.content) := by
  rw [content?, index_ofText, lineStart?_ofText, lineStart?_ofText]
  cases h : (Line.ofText t)[k]? with
  | none => rfl
  | some l =>
    obtain ⟨pre, post, rfl, hstart, hstop⟩ := Line.exists_cut h
    have hwell := Line.wellFormed_of_mem (List.mem_of_getElem? h)
    simp only [Option.map_some, Option.some.injEq, Prod.mk.injEq, true_and]
    refine (congrArg (fun stop => dropTerminator (Text.slice _ l.start stop)) hstop).trans ?_
    rw [hstart]
    exact (congrArg dropTerminator (Text.slice_append pre l.text post)).trans
      (dropTerminator_text hwell)

theorem lineText_ofText (h : (Line.ofText t)[k]? = some l) : (ofText t).lineText k = l.content := by
  rw [lineText, content?_ofText, h]
  rfl

end Document

/-! ### The line of a piece of the text -/

namespace Line

variable {a b part t w : Text} {k column offset : Nat} {l : Line}

/-- **The columns of a line** are those of its text. -/
theorem column_of_offset? (hl : (ofText t)[k]? = some l)
    (h : (LineIndex.ofText t).offset? k column = some offset) :
    offset = l.start + column ∧ column ≤ l.text.size := by
  obtain ⟨-, -, -, -, hnext⟩ := exists_cut hl
  have hfirst : (LineIndex.ofText t).starts[k]? = some l.start := by
    rw [← map_start_ofText, List.getElem?_map, hl]
    rfl
  rw [← List.getElem?_map, map_start_ofText] at hnext
  rw [LineIndex.offset?, hfirst] at h
  dsimp only at h
  split at h
  next next hlast =>
    obtain ⟨hlt, heq⟩ := Option.ite_none_right_eq_some.mp h
    rw [hlast, Option.getD_some] at hnext
    exact ⟨(Option.some.inj heq).symm, by omega⟩
  next hlast =>
    obtain ⟨hle, heq⟩ := Option.ite_none_right_eq_some.mp h
    have hsize : (LineIndex.ofText t).size = t.size := rfl
    rw [hlast, Option.getD_none] at hnext
    exact ⟨(Option.some.inj heq).symm, by omega⟩

/-- What holds no terminator does not reach into the ending of a line. -/
theorem WellFormed.exists_content (h : l.WellFormed) (hw : w.IsPlain) (hne : w ≠ [])
    (htext : l.text = a ++ w ++ part) : ∃ b, l.content = a ++ (w ++ b) := by
  rcases List.append_eq_append_iff.mp htext with ⟨z, hz, hending⟩ | ⟨b, hcontent, -⟩
  · obtain ⟨w, d, rfl⟩ := (List.eq_nil_or_concat w).resolve_left hne
    rcases List.eq_nil_or_concat z with rfl | ⟨z, c, rfl⟩
    · exact ⟨[], by simpa using hz.symm⟩
    · -- The last character would stand in the ending.
      rw [List.concat_eq_append, List.concat_eq_append, ← List.append_assoc,
        ← List.append_assoc] at hz
      obtain ⟨-, hlast⟩ := List.append_inj' hz rfl
      obtain rfl := List.singleton_inj.mp hlast
      have hplain := hw d (by simp)
      have hends := h.ending d (by simp [hending])
      simp [Shape.isTerminator, hplain] at hends
  · exact ⟨b, by rw [hcontent, List.append_assoc]⟩

/-- **A piece of a text without terminators stands in the content of one line**, and its position is
its place there. -/
theorem exists_of_isPlain (hw : w.IsPlain) (hne : w ≠ []) (pre post : Text) :
    ∃ (k : Nat) (l : Line) (a b : Text), (ofText (pre ++ (w ++ post)))[k]? = some l ∧
      (LineIndex.ofText (pre ++ (w ++ post))).position pre.size = ⟨k + 1, a.size + 1⟩ ∧
      l.content = a ++ (w ++ b) := by
  obtain ⟨start, a, k, rfl, hposition, hstart, hoffset⟩ :=
    LineIndex.exists_line_of_isPlain hw pre post
  obtain ⟨l, hl, hfirst⟩ :=
    Option.map_eq_some_iff.mp ((Document.lineStart?_ofText _ _).symm.trans hstart)
  obtain ⟨-, hcolumn⟩ := column_of_offset? hl hoffset
  obtain ⟨first, rest, htext, hsize, -⟩ := exists_cut hl
  -- The line begins where the columns are counted from, and goes on behind the piece.
  have hcut : first ++ (l.text ++ rest) = start ++ (a ++ w ++ post) := by
    rw [← htext, List.append_assoc, List.append_assoc]
  obtain ⟨gap, hgap, hline⟩ := Text.exists_between hcut (by omega)
  have hnil : gap = [] := by
    have htotal := congrArg Text.size hgap
    rw [Text.size_append] at htotal
    exact Text.size_eq_zero_iff.mp (by omega)
  rw [hnil, List.nil_append] at hline
  obtain ⟨part, hpart, -⟩ := Text.exists_between hline.symm hcolumn
  obtain ⟨b, hb⟩ :=
    (wellFormed_of_mem (List.mem_of_getElem? hl)).exists_content hw hne hpart
  exact ⟨k, l, a, b, hl, hposition, hb⟩

end Line

end GrammarWorkbench
