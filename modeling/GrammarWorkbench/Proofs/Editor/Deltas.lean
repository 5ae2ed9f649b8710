import GrammarWorkbench.Proofs.Editor.Segments

/-!
# Highlighting as distances

An editor is sent the distances between highlighted segments and adds them up again
(`GrammarWorkbench.HighlightDelta.decode`). Since the segments stand in order, this gives them back
(`GrammarWorkbench.HighlightDelta.decode_encode`).

The distances are computed in words of 32 bits and with slices of the text, and both can go wrong: a
subtraction may **underflow**, and a slice may begin or end inside a character.
`GrammarWorkbench.HighlightDelta.stepwise` is the computation with its faults. It walks from line to
line, with one offset that is moved to the start of each next line
(`GrammarWorkbench.HighlightDelta.walk_eq_ok`), and with the place of the segment before
(`GrammarWorkbench.HighlightDelta.write_eq_ok`). There are no faults as long as lines and columns
are words.
-/

namespace GrammarWorkbench

namespace HighlightDelta

/-! ### Adding up distances -/

/-- **The segments that distances lead to**, from a line and a column on. -/
def decode (line start : Nat) : List HighlightDelta → List (LineSegment × Nat)
  | [] => []
  | delta :: rest =>
    let next := if delta.line = 0 then start + delta.start else delta.start
    (⟨line + delta.line, next, delta.length⟩, delta.kind) :: decode (line + delta.line) next rest

/-- A segment does not begin before a line and a column. -/
def Reaches (line start : Nat) (s : LineSegment) : Prop :=
  line < s.line ∨ line = s.line ∧ start ≤ s.start

theorem reaches_of_before {s s' : LineSegment} (h : s.Before s') : Reaches s.line s.start s' := by
  rcases h with hlt | ⟨heq, hle⟩
  · exact Or.inl hlt
  · exact Or.inr ⟨heq, by omega⟩

/-- **Distances between segments in order lead to the segments.** -/
theorem decode_encode {line start : Nat} {segments : List (LineSegment × Nat)}
    (hreaches : ∀ a ∈ segments, Reaches line start a.1)
    (horder : segments.Pairwise fun a b => a.1.Before b.1) :
    decode line start (encode line start segments) = segments := by
  induction segments generalizing line start with
  | nil => rfl
  | cons a segments ih =>
    obtain ⟨s, kind⟩ := a
    have hfirst : Reaches line start s := hreaches _ List.mem_cons_self
    obtain ⟨hbefore, horder⟩ := List.pairwise_cons.mp horder
    have hrest := ih (fun a ha => reaches_of_before (hbefore a ha)) horder
    have hline : line + (s.line - line) = s.line := by
      rcases hfirst with hlt | ⟨heq, -⟩ <;> omega
    have hstart : (if s.line - line = 0 then
        start + (if s.line = line then s.start - start else s.start)
        else if s.line = line then s.start - start else s.start) = s.start := by
      rcases hfirst with hlt | ⟨heq, hle⟩
      · rw [if_neg (by omega), if_neg (by omega)]
      · rw [if_pos (by omega), if_pos heq.symm]
        omega
    rw [encode, decode]
    dsimp only
    rw [hline, hstart, hrest]

/-! ### Words and slices -/

/-- What can go wrong with words and slices. -/
inductive Fault where
  /-- The ends of a slice are not boundaries in order. -/
  | slice
  /-- A word would become less than zero. -/
  | underflow
deriving DecidableEq, Repr

/-- A slice of a text. -/
def sliceOf (t : Text) (start stop : Nat) : Except Fault Text :=
  if start ≤ stop ∧ t.isBoundary start = true ∧ t.isBoundary stop = true then
    .ok (t.slice start stop)
  else .error .slice

/-- The difference of two words. -/
def minus (a b : UInt32) : Except Fault UInt32 :=
  if b ≤ a then .ok (a - b) else .error .underflow

/-- A segment in words. -/
structure WordSegment where
  line : UInt32
  start : UInt32
  length : UInt32
deriving DecidableEq, Repr

/-- The words of a segment. Too large a number loses its upper bits. -/
def toWords (s : LineSegment) : WordSegment :=
  ⟨.ofNat s.line, .ofNat s.start, .ofNat s.length⟩

/-- The offsets between which the content of a line stands, if there is such a line. -/
def bounds (d : Document) (line : Nat) : Except Fault (Option (Nat × Nat)) :=
  match d.index.lineStart? line with
  | none => .ok none
  | some start => do
    let whole ← sliceOf d.text start ((d.index.lineStart? (line + 1)).getD d.text.size)
    return some (start, start + (Document.dropTerminator whole).size)

/-- The segment between two offsets of a line, if there is something between them. -/
def between (d : Document) (line lineStart first last : Nat) : Except Fault (List WordSegment) :=
  if first < last then do
    let before ← sliceOf d.text lineStart first
    let part ← sliceOf d.text first last
    return [⟨.ofNat line, .ofNat before.units, .ofNat part.units⟩]
  else return []

/-- **The segments from an offset of a line on**, up to another offset. -/
def walk (d : Document) (stop start line : Nat) : Except Fault (List WordSegment) := do
  match ← bounds d line with
  | none => return []
  | some (lineStart, contentStop) =>
    let here ← between d line lineStart start (min stop contentStop)
    match h : d.index.lineStart? (line + 1) with
    | none => return here
    | some next =>
      have : line + 1 < d.index.lineCount := (List.getElem?_eq_some_iff.mp h).1
      if next < stop then
        let more ← walk d stop next (line + 1)
        return here ++ more
      else return here
termination_by d.index.lineCount - line

/-- The segments of highlighted stretches, with the numbers of their kinds. -/
def collect (d : Document) : List Highlight → Except Fault (List (WordSegment × UInt32))
  | [] => return []
  | h :: hs => do
    let parts ← walk d h.stop h.start (d.index.locate h.start).1
    let more ← collect d hs
    return parts.map (·, .ofNat (HighlightKind.all.idxOf h.kind)) ++ more

/-- The distance to a column, `down` lines further down: only in the same line is it counted from
the column before. -/
def across (down next start : UInt32) : Except Fault UInt32 :=
  if down = 0 then minus next start else return next

/-- The distances between segments, starting from a line and a column. -/
def write (line start : UInt32) : List (WordSegment × UInt32) → Except Fault (List HighlightDelta)
  | [] => return []
  | (s, kind) :: rest => do
    let down ← minus s.line line
    let right ← across down s.start start
    let more ← write s.line s.start rest
    return ⟨down.toNat, right.toNat, s.length.toNat, kind.toNat⟩ :: more

/-- **The highlighting of a text**, step by step. -/
def stepwise (t : Text) : Except Fault (List HighlightDelta) := do
  let segments ← collect (.ofText t) (Highlight.ofSource t)
  write 0 0 segments

/-! ### From line to line -/

section Walk

variable {l : Line} {ls : List Line} {t : Text} {start stop k : Nat}

theorem sliceOf_eq_ok (h : t.IsStretch start stop) :
    sliceOf t start stop = .ok (t.slice start stop) :=
  if_pos ⟨h.le, h.isBoundary_start, h.isBoundary_stop⟩

/-- The boundaries of a line. -/
theorem isBoundary_line (hl : (Line.ofText t)[k]? = some l) :
    t.isBoundary l.start = true ∧ t.isBoundary l.contentStop = true ∧
      t.isBoundary (l.start + l.text.size) = true := by
  obtain ⟨pre, post, rfl, hstart, -⟩ := Line.exists_cut hl
  rw [Line.contentStop, hstart]
  refine ⟨Text.isBoundary_append _ _, ?_, ?_⟩
  · rw [Line.text, List.append_assoc]
    exact (Text.isStretch_append pre l.content (l.ending ++ post)).isBoundary_stop
  · exact (Text.isStretch_append pre l.text post).isBoundary_stop

theorem bounds_eq_ok (t : Text) (k : Nat) :
    bounds (.ofText t) k =
      .ok ((Line.ofText t)[k]?.map fun l => (l.start, l.contentStop)) := by
  rw [bounds, Document.index_ofText, Document.lineStart?_ofText, Document.lineStart?_ofText]
  cases hl : (Line.ofText t)[k]? with
  | none => rfl
  | some l =>
    obtain ⟨pre, post, htext, hstart, hstop⟩ := Line.exists_cut hl
    obtain ⟨hfirst, -, hlast⟩ := isBoundary_line hl
    have hslice : t.slice l.start (l.start + l.text.size) = l.text := by
      rw [htext, hstart]
      exact Text.slice_append pre l.text post
    have hwell := Line.wellFormed_of_mem (List.mem_of_getElem? hl)
    have hok := sliceOf_eq_ok ⟨hfirst, hlast, Nat.le_add_right _ _⟩
    rw [hslice] at hok
    rw [Option.map_some]
    dsimp only
    rw [Document.text_ofText, hstop, hok]
    change Except.ok (some (l.start, l.start + (Document.dropTerminator l.text).size)) = _
    rw [Document.dropTerminator_text hwell]
    rfl

/-- What is found in one line. -/
theorem between_eq_ok (hl : (Line.ofText t)[k]? = some l) (h : t.IsStretch start stop)
    (hle : l.start ≤ start) :
    between (.ofText t) k l.start start (min stop l.contentStop) =
      .ok ((l.segment? start stop k).toList.map toWords) := by
  obtain ⟨hfirst, hlast, -⟩ := isBoundary_line hl
  rw [← Document.segment?_ofText hl h, Document.segment?, Document.content?_ofText, hl, between]
  simp only [Option.map_some, Nat.max_eq_left hle]
  change _ = Except.ok
    ((if start < min stop l.contentStop then _ else _ : Option LineSegment).toList.map toWords)
  split
  next hlt =>
    have hbefore : t.IsStretch l.start start := ⟨hfirst, h.isBoundary_start, hle⟩
    have hpart : t.IsStretch start (min stop l.contentStop) := by
      refine ⟨h.isBoundary_start, ?_, Nat.le_of_lt hlt⟩
      rcases Nat.le_total stop l.contentStop with hmin | hmin
      · rw [Nat.min_eq_left hmin]
        exact h.isBoundary_stop
      · rw [Nat.min_eq_right hmin]
        exact hlast
    have hok := sliceOf_eq_ok hbefore
    have hok' := sliceOf_eq_ok hpart
    rw [Document.text_ofText, hok, hok']
    rfl
  next => rfl

theorem start_le_of_mem {before : List Line} (hlines : Line.ofText t = before ++ l :: ls) :
    ∀ l' ∈ ls, l.start ≤ l'.start := by
  intro l' hl'
  have horder := hlines ▸ Line.pairwise_ofText t
  have := (List.pairwise_cons.mp (List.pairwise_append.mp horder).2.1).1 l' hl'
  omega

/-- **The walk from line to line finds the segments of the lines.** -/
theorem walk_eq_ok {before : List Line} (hlines : Line.ofText t = before ++ l :: ls)
    (h : t.IsStretch start stop) (hle : l.start ≤ start) (hnext : ∀ l' ∈ ls, start ≤ l'.start) :
    walk (.ofText t) stop start before.length =
      .ok ((Line.segments start stop before.length (l :: ls)).map toWords) := by
  induction ls generalizing l start before with
  | nil =>
    have hl : (Line.ofText t)[before.length]? = some l := by simp [hlines]
    have hlast : (Line.ofText t)[before.length + 1]? = none := by simp [hlines]
    rw [walk, bounds_eq_ok, hl, Line.segments_cons, Line.segments_eq_nil (by simp), List.append_nil]
    simp only [bind, Except.bind, Option.map_some, between_eq_ok hl h hle]
    split
    next => rfl
    next next hstart =>
      rw [Document.index_ofText, Document.lineStart?_ofText, hlast] at hstart
      cases hstart
  | cons l' ls ih =>
    have hl : (Line.ofText t)[before.length]? = some l := by simp [hlines]
    have hl' : (Line.ofText t)[before.length + 1]? = some l' := by simp [hlines]
    have hlines' : Line.ofText t = (before ++ [l]) ++ l' :: ls := by simp [hlines]
    have hfrom : ∀ l'' ∈ l' :: ls, l'.start ≤ l''.start :=
      List.forall_mem_cons.mpr ⟨Nat.le_refl _, start_le_of_mem hlines'⟩
    rw [walk, bounds_eq_ok, hl, Line.segments_cons]
    simp only [bind, Except.bind, Option.map_some, between_eq_ok hl h hle]
    split
    next hstart =>
      rw [Document.index_ofText, Document.lineStart?_ofText, hl'] at hstart
      cases hstart
    next next hstart =>
      rw [Document.index_ofText, Document.lineStart?_ofText, hl'] at hstart
      obtain rfl : l'.start = next := Option.some.inj hstart
      split
      next hlt =>
        -- The walk goes on as if the stretch began with the next line.
        have hrest := ih hlines' ⟨(isBoundary_line hl').1, h.isBoundary_stop, Nat.le_of_lt hlt⟩
          (Nat.le_refl _) (start_le_of_mem hlines')
        rw [List.length_append, List.length_singleton] at hrest
        rw [hrest, Line.segments_of_le hnext hfrom, List.map_append]
        rfl
      next hge =>
        -- The stretch ends before the next line.
        rw [Line.segments_eq_nil fun l'' hl'' => by have := hfrom l'' hl''; omega, List.append_nil]
        rfl

/-- The lines after the line of an offset start after the offset. -/
theorem le_of_mem_drop_locate (t : Text) (start : Nat) :
    ∀ l ∈ (Line.ofText t).drop (((LineIndex.ofText t).locate start).1 + 1),
      start ≤ l.start := by
  have hpos := LineIndex.linesUpTo_pos t start
  have hline : ((LineIndex.ofText t).locate start).1 + 1 =
      (LineIndex.ofText t).linesUpTo start := by
    have : ((LineIndex.ofText t).locate start).1 =
      (LineIndex.ofText t).linesUpTo start - 1 := rfl
    omega
  rw [hline]
  cases hdrop : (Line.ofText t).drop ((LineIndex.ofText t).linesUpTo start) with
  | nil => simp
  | cons next rest =>
    have hget : (Line.ofText t)[(LineIndex.ofText t).linesUpTo start]? = some next := by
      rw [← List.head?_drop, hdrop, List.head?_cons]
    have hstarts : (LineIndex.ofText t).starts[(LineIndex.ofText t).linesUpTo start]? =
        some next.start := by
      rw [← Line.map_start_ofText, List.getElem?_map, hget]
      rfl
    have hnext := LineIndex.lt_of_getElem?_linesUpTo hstarts
    have hlines := List.take_append_drop ((LineIndex.ofText t).linesUpTo start) (Line.ofText t)
    rw [hdrop] at hlines
    have hrest := start_le_of_mem hlines.symm
    refine List.forall_mem_cons.mpr ⟨Nat.le_of_lt hnext, fun l hl => ?_⟩
    have := hrest l hl
    omega

/-- **The walk along a stretch** begins in the line of its first character. -/
theorem walk_locate_eq_ok (h : t.IsStretch start stop) :
    walk (.ofText t) stop start ((LineIndex.ofText t).locate start).1 =
      .ok (((Document.ofText t).segments start stop).map toWords) := by
  have hsize : start ≤ t.size := by
    have := Text.isBoundary_iff.mp h.isBoundary_start
    have := Text.size_takeBytes_le_size start t
    omega
  obtain ⟨first, hfirst, hcolumn, -⟩ := LineIndex.offset?_locate hsize
  have hline := (Document.lineStart?_ofText t _).symm.trans hfirst
  obtain ⟨l, hl, rfl⟩ := Option.map_eq_some_iff.mp hline
  have hk := (List.getElem?_eq_some_iff.mp hl).1
  have hlines := List.take_append_drop ((LineIndex.ofText t).locate start).1 (Line.ofText t)
  rw [List.drop_eq_getElem_cons hk, (List.getElem?_eq_some_iff.mp hl).2] at hlines
  have hlength : ((Line.ofText t).take ((LineIndex.ofText t).locate start).1).length =
      ((LineIndex.ofText t).locate start).1 :=
    List.length_take_of_le (Nat.le_of_lt hk)
  have hwalk := walk_eq_ok hlines.symm h (by omega) (le_of_mem_drop_locate t start)
  rw [hlength] at hwalk
  have hnone := Document.segments_take_locate t start stop
  rw [hwalk, Document.segments_ofText h]
  nth_rewrite 2 [← hlines]
  rw [Line.segments_append, hnone, hlength, Nat.zero_add, List.nil_append]

end Walk

/-! ### Without faults -/

/-- Segments with numbers of kinds, in words. -/
def pairWords (a : LineSegment × Nat) : WordSegment × UInt32 :=
  (toWords a.1, .ofNat a.2)

theorem collect_eq_ok {t : Text} {hs : List Highlight}
    (h : ∀ h ∈ hs, t.IsStretch h.start h.stop) :
    collect (.ofText t) hs = .ok ((segmentsOf (.ofText t) hs).map pairWords) := by
  induction hs with
  | nil => rfl
  | cons x hs ih =>
    obtain ⟨hx, hrest⟩ := List.forall_mem_cons.mp h
    have hsegments : segmentsOf (.ofText t) (x :: hs) =
        ((Document.ofText t).segments x.start x.stop).map (·, HighlightKind.all.idxOf x.kind) ++
          segmentsOf (.ofText t) hs := rfl
    rw [collect, Document.index_ofText, walk_locate_eq_ok hx, ih hrest, hsegments, List.map_append]
    simp only [bind, Except.bind, pure, Except.pure, List.map_map]
    rfl

/-- Words are subtracted like numbers. -/
theorem minus_eq_ok {a b : Nat} (hle : b ≤ a) (ha : a < UInt32.size) :
    minus (.ofNat a) (.ofNat b) = .ok (.ofNat (a - b)) := by
  rw [UInt32.ofNat_sub hle]
  refine if_pos (UInt32.le_iff_toNat_le.mpr ?_)
  rwa [UInt32.toNat_ofNat_of_lt' ha, UInt32.toNat_ofNat_of_lt' (Nat.lt_of_le_of_lt hle ha)]

/-- A segment whose numbers are words. -/
def Fits (a : LineSegment × Nat) : Prop :=
  a.1.line < UInt32.size ∧ a.1.start < UInt32.size ∧ a.1.length < UInt32.size ∧ a.2 < UInt32.size

/-- **Distances in words** are the distances, and none of them is negative. -/
theorem write_eq_ok {line start : Nat} {segments : List (LineSegment × Nat)}
    (hfits : ∀ a ∈ segments, Fits a) (hreaches : ∀ a ∈ segments, Reaches line start a.1)
    (horder : segments.Pairwise fun a b => a.1.Before b.1) :
    write (.ofNat line) (.ofNat start) (segments.map pairWords) =
      .ok (encode line start segments) := by
  induction segments generalizing line start with
  | nil => rfl
  | cons a segments ih =>
    obtain ⟨s, kind⟩ := a
    obtain ⟨hfit, hfits⟩ := List.forall_mem_cons.mp hfits
    obtain ⟨hline, hstart, hlength, hkind⟩ : s.line < UInt32.size ∧ s.start < UInt32.size ∧
      s.length < UInt32.size ∧ kind < UInt32.size := hfit
    have hfirst : Reaches line start s := hreaches _ List.mem_cons_self
    obtain ⟨hbefore, horder⟩ := List.pairwise_cons.mp horder
    have hrest := ih hfits (fun a ha => reaches_of_before (hbefore a ha)) horder
    have hdown : minus (.ofNat s.line) (.ofNat line) = .ok (.ofNat (s.line - line)) := by
      refine minus_eq_ok ?_ hline
      rcases hfirst with hlt | ⟨heq, -⟩ <;> omega
    have hzero : UInt32.ofNat (s.line - line) = 0 ↔ s.line - line = 0 := by
      rw [← UInt32.toNat_inj, UInt32.toNat_ofNat_of_lt' (Nat.lt_of_le_of_lt (Nat.sub_le _ _) hline)]
      rfl
    have hright : across (.ofNat (s.line - line)) (.ofNat s.start) (.ofNat start) =
        .ok (.ofNat (if s.line = line then s.start - start else s.start)) := by
      rw [across]
      rcases hfirst with hlt | ⟨heq, hle⟩
      · rw [if_neg (by rw [hzero]; omega), if_neg (by omega)]
        rfl
      · rw [if_pos (by rw [hzero]; omega), if_pos heq.symm, minus_eq_ok hle hstart]
    have hright' : (if s.line = line then s.start - start else s.start) < UInt32.size := by
      split <;> omega
    rw [List.map_cons, pairWords, toWords, write, hdown]
    simp only [bind, Except.bind, hright, hrest, pure, Except.pure]
    rw [encode, UInt32.toNat_ofNat_of_lt' (Nat.lt_of_le_of_lt (Nat.sub_le _ _) hline),
      UInt32.toNat_ofNat_of_lt' hright', UInt32.toNat_ofNat_of_lt' hlength,
      UInt32.toNat_ofNat_of_lt' hkind]

/-! ### The highlighting of a text -/

variable {t : Text}

theorem mem_all (kind : HighlightKind) : kind ∈ HighlightKind.all := by
  cases kind <;> decide

theorem isStretch_of_mem {h : Highlight} (hmem : h ∈ Highlight.ofSource t) :
    t.IsStretch h.start h.stop := by
  obtain ⟨pre, x, post, rfl, hstart, hstop⟩ := Highlight.stretch_of_mem hmem
  rw [hstart, hstop]
  exact Text.isStretch_append pre x post

/-- The segments of a text stand in order. -/
theorem pairwise_segmentsOf (t : Text) :
    (segmentsOf (.ofText t) (Highlight.ofSource t)).Pairwise fun a b => a.1.Before b.1 := by
  refine List.pairwise_flatMap.mpr ⟨?_, ?_⟩
  · intro h hmem
    exact List.pairwise_map.mpr (Document.pairwise_segments (isStretch_of_mem hmem))
  · refine (Highlight.pairwise_ofSource t).imp_of_mem ?_
    intro h h' hmem hmem' horder a ha b hb
    obtain ⟨s, hs, rfl⟩ := List.mem_map.mp ha
    obtain ⟨s', hs', rfl⟩ := List.mem_map.mp hb
    exact Document.before_of_mem_segments (isStretch_of_mem hmem) (isStretch_of_mem hmem') horder hs
      hs'

/-- A segment of a text is a part of one of its lines, and not empty. -/
theorem within_of_mem_segmentsOf {a : LineSegment × Nat}
    (h : a ∈ segmentsOf (.ofText t) (Highlight.ofSource t)) :
    0 < a.1.length ∧ a.1.line < (LineIndex.ofText t).lineCount ∧
      a.1.start + a.1.length ≤ ((Document.ofText t).lineText a.1.line).units ∧
      a.2 < HighlightKind.all.length := by
  obtain ⟨x, hx, ha⟩ := List.mem_flatMap.mp h
  obtain ⟨s, hs, rfl⟩ := List.mem_map.mp ha
  have hstretch := isStretch_of_mem hx
  obtain ⟨l, k, hl, hsegment⟩ := Document.exists_line_of_mem_segments hstretch hs
  obtain ⟨before, after, hline, hstart, hlength⟩ := Line.covers hl hstretch.le hsegment
  refine ⟨Line.length_pos hsegment, ?_, ?_, ?_⟩
  · obtain ⟨-, rfl⟩ := Line.segment?_eq_some_iff.mp hsegment
    rw [Document.lineCount_ofText]
    exact (List.getElem?_eq_some_iff.mp hl).1
  · rw [hline, Text.units_append, Text.units_append, hstart, hlength]
    dsimp only
    omega
  · exact List.idxOf_lt_length_of_mem (mem_all x.kind)

/-- **Highlighting loses nothing, and its computation has no faults.**

For a text whose lines and columns are words, the computation in words and slices gives the
highlighting. Adding up the distances gives segments in order, each of them a part of its line. They
fall into groups, one for each highlighted stretch, which bear its kind and cover the stretch up to
terminators. -/
theorem ofText_lossless (t : Text) (hlines : (LineIndex.ofText t).lineCount ≤ UInt32.size)
    (hcolumns : ∀ line, ((Document.ofText t).lineText line).units < UInt32.size) :
    let d := Document.ofText t
    let decoded := decode 0 0 (ofText t)
    (∀ x ∈ Lexeme.scanAll t, sliceOf t x.start x.stop = .ok x.text) ∧
    stepwise t = .ok (ofText t) ∧
    decoded.Pairwise (fun a b => a.1.Before b.1) ∧
    (∀ a ∈ decoded, 0 < a.1.length ∧ a.1.line < d.index.lineCount ∧
      a.1.start + a.1.length ≤ (d.lineText a.1.line).units) ∧
    ∃ groups, decoded = groups.flatten ∧
      List.Forall₂ (fun (h : Highlight) group =>
        (∀ a ∈ group, HighlightKind.all[a.2]? = some h.kind) ∧
        ∃ parts, List.Forall₂ (fun a x => a.1.Covers d x) group parts ∧
          parts.flatten = (t.slice h.start h.stop).filter fun c => c ≠ '\r' ∧ c ≠ '\n')
        (Highlight.ofSource t) groups := by
  intro d decoded
  have horder := pairwise_segmentsOf t
  have hreaches : ∀ a ∈ segmentsOf d (Highlight.ofSource t), Reaches 0 0 a.1 := by
    intro a _
    rw [Reaches]
    omega
  have hdecoded : decoded = segmentsOf d (Highlight.ofSource t) := decode_encode hreaches horder
  refine ⟨?_, ?_, hdecoded ▸ horder, ?_, ?_⟩
  · intro x hx
    obtain ⟨pre, post, rfl, hstart, -⟩ := Lexeme.exists_cut hx
    rw [Lexeme.stop, hstart, sliceOf_eq_ok (Text.isStretch_append pre x.text post),
      Text.slice_append]
  · have hfits : ∀ a ∈ segmentsOf d (Highlight.ofSource t), Fits a := by
      intro a ha
      obtain ⟨-, hline, hcolumn, hkind⟩ := within_of_mem_segmentsOf ha
      have hwidth := hcolumns a.1.line
      have hkinds : HighlightKind.all.length < UInt32.size := by decide
      refine ⟨?_, ?_, ?_, ?_⟩ <;> omega
    rw [stepwise, collect_eq_ok fun h => isStretch_of_mem]
    exact write_eq_ok hfits hreaches horder
  · intro a ha
    obtain ⟨hpos, hline, hcolumn, -⟩ := within_of_mem_segmentsOf (hdecoded ▸ ha)
    exact ⟨hpos, hline, hcolumn⟩
  · refine ⟨_, hdecoded, List.forall₂_map_right_iff.mpr (List.forall₂_same.mpr ?_)⟩
    intro h hmem
    constructor
    · intro a ha
      obtain ⟨s, -, rfl⟩ := List.mem_map.mp ha
      exact List.getElem?_idxOf (mem_all h.kind)
    · obtain ⟨parts, hcovers, hflatten⟩ := Document.exists_parts (isStretch_of_mem hmem)
      refine ⟨parts, List.forall₂_map_left_iff.mpr hcovers, hflatten.trans ?_⟩
      obtain ⟨pre, x, post, rfl, hstart, hstop⟩ := Highlight.stretch_of_mem hmem
      rw [hstart, hstop, Text.window_of_cut, Text.slice_append]
      refine List.filter_congr fun c _ => ?_
      simp [Shape.isTerminator, Bool.beq_eq_decide_eq]

/-- A comment with a character of two units, a pair of a return and a feed, and an empty line. -/
theorem ofText_lossless_comment :
    let t := "/* 😀\r\n\r\nx */ =".toList
    (LineIndex.ofText t).lineCount ≤ UInt32.size ∧
      (∀ line, ((Document.ofText t).lineText line).units < UInt32.size) ∧
      stepwise t = .ok [⟨0, 0, 5, 3⟩, ⟨2, 0, 4, 3⟩, ⟨0, 5, 1, 4⟩] ∧
      (decode 0 0 (ofText t)).Pairwise fun a b => a.1.Before b.1 := by
  intro t
  have hlines : (LineIndex.ofText t).lineCount ≤ UInt32.size := by decide +kernel
  have hcolumns : ∀ line, ((Document.ofText t).lineText line).units < UInt32.size := by
    rintro (_ | _ | _ | line)
    · decide +kernel
    · decide +kernel
    · decide +kernel
    · exact Nat.zero_lt_succ _
  obtain ⟨-, hstepwise, horder, -⟩ := ofText_lossless t hlines hcolumns
  have htext : ofText t = [⟨0, 0, 5, 3⟩, ⟨2, 0, 4, 3⟩, ⟨0, 5, 1, 4⟩] := by decide +kernel
  exact ⟨hlines, hcolumns, hstepwise.trans (congrArg _ htext), horder⟩

end HighlightDelta

end GrammarWorkbench
