import GrammarWorkbench.Proofs.Lexeme.Tiling
import GrammarWorkbench.Proofs.Source.LineTexts
import GrammarWorkbench.Proofs.Text.Units
import Mathlib.Data.List.Forall2

/-!
# The segments of a stretch of text

A stretch of a source is shown line by line: each line that has a part in it gives a segment, which
says where the part begins and how long it is, in UTF-16 units. Two things are shown about them.

* **Nothing is lost.** Each segment covers a part of its line
  (`GrammarWorkbench.LineSegment.Covers`), and the parts are the stretch without terminators
  (`GrammarWorkbench.Document.exists_parts`).
* **The segments stand in order**, those of one stretch by their lines
  (`GrammarWorkbench.Document.pairwise_segments`), and those of two stretches like the stretches
  (`GrammarWorkbench.Document.before_of_mem_segments`).

The stretches that are highlighted are lexemes. They begin and end at boundaries, and each one ends
before the next one begins (`GrammarWorkbench.Highlight.stretch_of_mem`,
`GrammarWorkbench.Highlight.pairwise_ofSource`).
-/

namespace GrammarWorkbench

/-! ### Boundaries -/

namespace Text

variable {t u x v : Text} {m n : Nat}

theorem units_pos (h : t ≠ []) : 0 < t.units := by
  obtain ⟨c, t, rfl⟩ := List.exists_cons_of_ne_nil h
  have := charUnits_pos c
  rw [units_cons]
  omega

theorem size_pos (h : t ≠ []) : 0 < t.size :=
  Nat.pos_of_ne_zero fun hsize => h (size_eq_zero_iff.mp hsize)

/-- More bytes begin with fewer bytes. -/
theorem takeBytes_eq_append (h : m ≤ n) (t : Text) :
    takeBytes n t = takeBytes m t ++ dropBytes m (takeBytes n t) := by
  rw [← takeBytes_takeBytes h t, takeBytes_append_dropBytes]

theorem units_takeBytes_mono (h : m ≤ n) (t : Text) :
    (takeBytes m t).units ≤ (takeBytes n t).units := by
  rw [takeBytes_eq_append h t, units_append]
  exact Nat.le_add_right _ _

/-- **A boundary of a text cuts each of its pieces**, maybe at an end. -/
theorem size_takeBytes_of_isBoundary (h : isBoundary (u ++ (x ++ v)) n = true) :
    (takeBytes (n - u.size) x).size = min (n - u.size) x.size := by
  -- No piece has more bytes before the boundary than it should, and together they have all.
  have htotal := isBoundary_iff.mp h
  rw [takeBytes_append_sub, takeBytes_append_sub, size_append, size_append] at htotal
  have hu := size_takeBytes_le n u
  have hu' := size_takeBytes_le_size n u
  have hx := size_takeBytes_le (n - u.size) x
  have hx' := size_takeBytes_le_size (n - u.size) x
  have hv := size_takeBytes_le (n - u.size - x.size) v
  omega

/-- **A stretch of a text**: two boundaries in order. -/
structure IsStretch (t : Text) (start stop : Nat) : Prop where
  isBoundary_start : t.isBoundary start = true
  isBoundary_stop : t.isBoundary stop = true
  le : start ≤ stop

theorem isStretch_append (pre x post : Text) :
    IsStretch (pre ++ (x ++ post)) pre.size (pre.size + x.size) where
  isBoundary_start := isBoundary_append _ _
  isBoundary_stop := by
    rw [← List.append_assoc, ← size_append]
    exact isBoundary_append _ _
  le := Nat.le_add_right _ _

end Text

/-! ### The segment of one line -/

/-- **A segment covers a text** if the text stands at its place in its line. -/
def LineSegment.Covers (d : Document) (s : LineSegment) (x : Text) : Prop :=
  ∃ before after, d.lineText s.line = before ++ (x ++ after) ∧ before.units = s.start ∧
    x.units = s.length

/-- One segment ends before another one begins. -/
def LineSegment.Before (s s' : LineSegment) : Prop :=
  s.line < s'.line ∨ s.line = s'.line ∧ s.start + s.length ≤ s'.start

namespace Line

variable {l l' : Line} {s s' : LineSegment} {t : Text} {start stop start' stop' k k' : Nat}

/-- The segment of a line between two offsets. -/
def segment? (start stop : Nat) (l : Line) (k : Nat) : Option LineSegment :=
  if l.part start stop = [] then none
  else some ⟨k, (l.content.takeBytes (start - l.start)).units, (l.part start stop).units⟩

theorem segment?_eq_some_iff : l.segment? start stop k = some s ↔ l.part start stop ≠ [] ∧
    s = ⟨k, (l.content.takeBytes (start - l.start)).units, (l.part start stop).units⟩ := by
  rw [segment?, Option.ite_none_left_eq_some, Option.some.injEq]
  exact and_congr_right fun _ => eq_comm

/-- The segments of lines between two offsets, where the lines are counted from `k` on. -/
def segments (start stop k : Nat) (ls : List Line) : List LineSegment :=
  (ls.zipIdx k).filterMap fun p => p.1.segment? start stop p.2

theorem segments_cons (start stop k : Nat) (l : Line) (ls : List Line) :
    segments start stop k (l :: ls) =
      (l.segment? start stop k).toList ++ segments start stop (k + 1) ls := by
  rw [segments, List.zipIdx_cons, List.filterMap_cons]
  cases l.segment? start stop k <;> rfl

theorem segments_append (start stop k : Nat) (ls ls' : List Line) :
    segments start stop k (ls ++ ls') =
      segments start stop k ls ++ segments start stop (k + ls.length) ls' := by
  rw [segments, List.zipIdx_append, List.filterMap_append]
  rfl

/-- What stands before the end of a stretch in a line: something before the stretch, and a part of
the stretch. -/
theorem takeBytes_append_part (h : start ≤ stop) (l : Line) :
    l.content.takeBytes (start - l.start) ++ l.part start stop =
      l.content.takeBytes (stop - l.start) :=
  (Text.takeBytes_eq_append (Nat.sub_le_sub_right h _) _).symm

/-- A line in which a stretch has a part overlaps with the stretch. -/
theorem overlap_of_part_ne_nil (h : l.part start stop ≠ []) :
    l.start < stop ∧ start < l.contentStop := by
  have hsize := Text.size_takeBytes_le_size (stop - l.start) l.content
  constructor
  · by_contra hle
    refine h ?_
    rw [part, Text.window, Nat.sub_eq_zero_of_le (Nat.le_of_not_lt hle), Text.takeBytes_zero]
    rfl
  · by_contra hle
    refine h (Text.dropBytes_of_size_le ?_)
    rw [contentStop] at hle
    omega

/-- Where a stretch begins before a line does not matter to the line. -/
theorem segment?_of_le (h : start ≤ l.start) (h' : start' ≤ l.start) :
    l.segment? start stop k = l.segment? start' stop k := by
  simp only [segment?, part, Text.window, Nat.sub_eq_zero_of_le h, Nat.sub_eq_zero_of_le h']

/-- Where a stretch begins before some lines does not matter to them. -/
theorem segments_of_le {ls : List Line} (h : ∀ l ∈ ls, start ≤ l.start)
    (h' : ∀ l ∈ ls, start' ≤ l.start) : segments start stop k ls = segments start' stop k ls := by
  refine List.filterMap_congr ?_
  rintro ⟨l, i⟩ hmem
  have hl := (List.mem_zipIdx hmem).2.2 ▸ List.getElem_mem _
  exact segment?_of_le (h l hl) (h' l hl)

/-- Lines behind a stretch have no segments in it. -/
theorem segments_eq_nil {ls : List Line} (h : ∀ l ∈ ls, stop ≤ l.start) :
    segments start stop k ls = [] := by
  refine List.filterMap_eq_nil_iff.mpr ?_
  rintro ⟨l, i⟩ hmem
  have hl := h l ((List.mem_zipIdx hmem).2.2 ▸ List.getElem_mem _)
  refine if_pos ?_
  by_contra hpart
  exact Nat.not_lt_of_le hl (overlap_of_part_ne_nil hpart).1

/-- A segment is not empty. -/
theorem length_pos (h : l.segment? start stop k = some s) : 0 < s.length := by
  obtain ⟨hpart, rfl⟩ := segment?_eq_some_iff.mp h
  exact Text.units_pos hpart

/-- **The segment of a line covers the part of the line.** -/
theorem covers (hl : (ofText t)[k]? = some l) (hle : start ≤ stop)
    (h : l.segment? start stop k = some s) : s.Covers (.ofText t) (l.part start stop) := by
  obtain ⟨-, rfl⟩ := segment?_eq_some_iff.mp h
  refine ⟨l.content.takeBytes (start - l.start), l.content.dropBytes (stop - l.start), ?_, rfl, rfl⟩
  rw [Document.lineText_ofText hl, ← List.append_assoc, takeBytes_append_part hle,
    Text.takeBytes_append_dropBytes]

theorem contentStop_le (hl : (ofText t)[k]? = some l) (hl' : (ofText t)[k']? = some l')
    (h : k < k') : l.contentStop ≤ l'.start := by
  obtain ⟨hk, rfl⟩ := List.getElem?_eq_some_iff.mp hl
  obtain ⟨hk', rfl⟩ := List.getElem?_eq_some_iff.mp hl'
  have hle := List.pairwise_iff_getElem.mp (pairwise_ofText t) k k' hk hk' h
  rw [text, Text.size_append] at hle
  rw [contentStop]
  omega

/-- **The segments of two stretches stand like the stretches.** -/
theorem before_of_segment? (hl : (ofText t)[k]? = some l) (hl' : (ofText t)[k']? = some l')
    (hle : start ≤ stop) (hstop : stop ≤ start') (h : l.segment? start stop k = some s)
    (h' : l'.segment? start' stop' k' = some s') : s.Before s' := by
  obtain ⟨hpart, rfl⟩ := segment?_eq_some_iff.mp h
  obtain ⟨hpart', rfl⟩ := segment?_eq_some_iff.mp h'
  rcases Nat.lt_trichotomy k k' with hlt | rfl | hgt
  · exact Or.inl hlt
  · -- In one line, what stands before the end of the first stretch stands before the second one.
    obtain rfl : l = l' := Option.some.inj (hl.symm.trans hl')
    refine Or.inr ⟨rfl, ?_⟩
    rw [← Text.units_append, takeBytes_append_part hle]
    exact Text.units_takeBytes_mono (Nat.sub_le_sub_right hstop _) _
  · -- A line further up has no part in what comes later.
    have hstart := (overlap_of_part_ne_nil hpart).1
    have hend := (overlap_of_part_ne_nil hpart').2
    have := contentStop_le hl' hl hgt
    omega

end Line

/-! ### The segments of a document -/

namespace Document

variable {l : Line} {s s' : LineSegment} {t : Text} {start stop start' stop' k : Nat}

/-- **A document finds the segment of each of its lines.** -/
theorem segment?_ofText (hl : (Line.ofText t)[k]? = some l) (h : t.IsStretch start stop) :
    (ofText t).segment? start stop k = l.segment? start stop k := by
  obtain ⟨pre, post, rfl, hpre, -⟩ := Line.exists_cut hl
  obtain ⟨hstart, hstop, hle⟩ := h
  rw [Line.text, List.append_assoc] at hstart hstop
  have hbefore := Text.size_takeBytes_of_isBoundary hstart
  have hupTo := Text.size_takeBytes_of_isBoundary hstop
  rw [← hpre, ← Line.takeBytes_append_part hle, Text.size_append] at hupTo
  rw [← hpre] at hbefore
  -- The line is cut into what stands before the stretch, its part, and what stands after it.
  have hcontent := Text.takeBytes_append_dropBytes (stop - l.start) l.content
  rw [← Line.takeBytes_append_part hle, List.append_assoc] at hcontent
  rw [segment?, content?_ofText, hl, Line.segment?]
  generalize l.content.takeBytes (start - l.start) = before at *
  generalize l.part start stop = part at *
  generalize l.content.dropBytes (stop - l.start) = after at hcontent
  have htext : (ofText (pre ++ (l.text ++ post))).text =
      pre ++ (before ++ (part ++ (after ++ (l.ending ++ post)))) := by
    simp [ofText, Line.text, ← hcontent]
  simp only [Option.map_some, htext]
  by_cases hpart : part = []
  · rw [hpart, Text.size_nil] at hupTo
    rw [if_pos hpart, if_neg (by omega)]
  · have hpos := Text.size_pos hpart
    have hfirst : max start l.start = (pre ++ before).size := by
      rw [Text.size_append]
      omega
    have hlast : min stop (l.start + l.content.size) = (pre ++ before).size + part.size := by
      rw [Text.size_append]
      omega
    rw [if_neg hpart, if_pos (by omega), hfirst, hlast, ← List.append_assoc pre,
      Text.slice_append, hpre, Text.size_append, List.append_assoc, Text.slice_append]

/-- The lines before the first one of a stretch have no part in it. -/
theorem part_of_lt_locate (hl : (Line.ofText t)[k]? = some l)
    (h : k < ((LineIndex.ofText t).locate start).1) : l.part start stop = [] := by
  have hnext : k + 1 < (LineIndex.ofText t).linesUpTo start := by
    have : ((LineIndex.ofText t).locate start).1 = (LineIndex.ofText t).linesUpTo start - 1 := rfl
    omega
  obtain ⟨next, hnext, hle⟩ := LineIndex.exists_start_le hnext
  obtain ⟨l', hl', rfl⟩ :=
    Option.map_eq_some_iff.mp ((lineStart?_ofText t (k + 1)).symm.trans hnext)
  by_contra hpart
  have hstart := (Line.overlap_of_part_ne_nil hpart).2
  have := Line.contentStop_le hl hl' (Nat.lt_succ_self k)
  omega

/-- A stretch has no segments before its first line. -/
theorem segments_take_locate (t : Text) (start stop : Nat) :
    Line.segments start stop 0 ((Line.ofText t).take ((LineIndex.ofText t).locate start).1) =
      [] := by
  refine List.filterMap_eq_nil_iff.mpr ?_
  rintro ⟨l, k⟩ hmem
  have htake := List.mk_mem_zipIdx_iff_getElem?.mp hmem
  obtain ⟨hk, -⟩ := List.getElem?_eq_some_iff.mp htake
  have hlt : k < ((LineIndex.ofText t).locate start).1 :=
    Nat.lt_of_lt_of_le hk (List.length_take_le _ _)
  rw [List.getElem?_take_of_lt hlt] at htake
  exact if_pos (part_of_lt_locate htake hlt)

/-- **The segments of a stretch**, line by line. -/
theorem segments_ofText (h : t.IsStretch start stop) :
    (ofText t).segments start stop = Line.segments start stop 0 (Line.ofText t) := by
  rw [segments, Line.segments, index_ofText, List.filterMap_filter, lineCount_ofText,
    List.range_eq_range', ← List.zipIdx_map_snd, List.filterMap_map]
  refine List.filterMap_congr ?_
  rintro ⟨l, k⟩ hmem
  have hl := List.mk_mem_zipIdx_iff_getElem?.mp hmem
  simp only [Function.comp_apply, decide_eq_true_eq]
  split
  · exact segment?_ofText hl h
  next hlt => rw [Line.segment?, if_pos (part_of_lt_locate hl (Nat.lt_of_not_le hlt))]

/-- A segment of a stretch belongs to one line. -/
theorem exists_line_of_mem_segments (h : t.IsStretch start stop)
    (hs : s ∈ (ofText t).segments start stop) :
    ∃ (l : Line) (k : Nat), (Line.ofText t)[k]? = some l ∧ l.segment? start stop k = some s := by
  rw [segments_ofText h] at hs
  obtain ⟨⟨l, k⟩, hmem, hs⟩ := List.mem_filterMap.mp hs
  exact ⟨l, k, List.mk_mem_zipIdx_iff_getElem?.mp hmem, hs⟩

/-- **The segments of a stretch stand in order.** -/
theorem pairwise_segments (h : t.IsStretch start stop) :
    ((ofText t).segments start stop).Pairwise LineSegment.Before := by
  rw [segments_ofText h, Line.segments, List.pairwise_filterMap]
  have hlines : (Line.ofText t).zipIdx.Pairwise fun p p' => p.2 < p'.2 := by
    rw [← List.pairwise_map (f := Prod.snd), List.zipIdx_map_snd]
    exact List.pairwise_lt_range'
  refine hlines.imp ?_
  rintro ⟨l, k⟩ ⟨l', k'⟩ hlt s hs s' hs'
  obtain ⟨-, rfl⟩ := Line.segment?_eq_some_iff.mp hs
  obtain ⟨-, rfl⟩ := Line.segment?_eq_some_iff.mp hs'
  exact Or.inl hlt

/-- **The segments of two stretches** stand like the stretches. -/
theorem before_of_mem_segments (h : t.IsStretch start stop) (h' : t.IsStretch start' stop')
    (horder : stop ≤ start') (hs : s ∈ (ofText t).segments start stop)
    (hs' : s' ∈ (ofText t).segments start' stop') : s.Before s' := by
  obtain ⟨l, k, hl, hs⟩ := exists_line_of_mem_segments h hs
  obtain ⟨l', k', hl', hs'⟩ := exists_line_of_mem_segments h' hs'
  exact Line.before_of_segment? hl hl' h.le horder hs hs'

/-- **Nothing is lost but terminators**: the segments of a stretch cover parts of the lines, which
make up the stretch. -/
theorem exists_parts (h : t.IsStretch start stop) :
    ∃ parts, List.Forall₂ (LineSegment.Covers (ofText t)) ((ofText t).segments start stop) parts ∧
      parts.flatten = (t.window 0 start stop).filter (!Shape.isTerminator ·) := by
  have hparts : ∀ (ls before : List Line), Line.ofText t = before ++ ls →
      ∃ parts, List.Forall₂ (LineSegment.Covers (ofText t))
          (Line.segments start stop before.length ls) parts ∧
        parts.flatten = ls.flatMap (Line.part start stop) := by
    intro ls
    induction ls with
    | nil => exact fun _ _ => ⟨[], List.Forall₂.nil, rfl⟩
    | cons l ls ih =>
      intro before hlines
      have hl : (Line.ofText t)[before.length]? = some l := by simp [hlines]
      obtain ⟨parts, hcovers, hflatten⟩ := ih (before ++ [l]) (by simp [hlines])
      rw [List.length_append, List.length_singleton] at hcovers
      rw [Line.segments_cons, List.flatMap_cons, ← hflatten]
      cases hs : l.segment? start stop before.length with
      | none =>
        have hpart : l.part start stop = [] := by
          by_contra hne
          rw [Line.segment?, if_neg hne] at hs
          cases hs
        exact ⟨parts, hcovers, by rw [hpart, List.nil_append]⟩
      | some s => exact ⟨_, List.Forall₂.cons (Line.covers hl h.le hs) hcovers, rfl⟩
  rw [segments_ofText h, ← Line.flatMap_part_ofText]
  exact hparts (Line.ofText t) [] rfl

end Document

/-! ### The stretches of lexemes -/

namespace Highlight

variable {source : Text} {h : Highlight}

/-- The highlighted stretches are some of the lexemes. -/
theorem sublist_ofLexemes (r : Region) (xs : List Lexeme) :
    ((ofLexemes r xs).map fun h => (h.start, h.stop)).Sublist
      (xs.map fun x => (x.start, x.stop)) := by
  induction xs generalizing r with
  | nil => exact List.Sublist.refl _
  | cons x xs ih =>
    rw [ofLexemes, List.map_cons]
    cases hx : x.token with
    | none => exact (ih r).cons _
    | some t =>
      dsimp only
      rcases classify r t x.text with ⟨kind, next⟩
      cases kind with
      | none => exact (ih next).cons _
      | some kind => exact (ih next).cons_cons _

/-- **A highlighted stretch** cuts its source. -/
theorem stretch_of_mem (hmem : h ∈ ofSource source) :
    ∃ pre x post : Text, source = pre ++ (x ++ post) ∧ h.start = pre.size ∧
      h.stop = pre.size + x.size := by
  have hspan := (sublist_ofLexemes .grammar (Lexeme.scanAll source)).subset
    (List.mem_map_of_mem hmem)
  obtain ⟨x, hx, heq⟩ := List.mem_map.mp hspan
  obtain ⟨hstart, hstop⟩ := Prod.mk.inj heq
  obtain ⟨pre, post, hsource, hpre, -⟩ := Lexeme.exists_cut hx
  exact ⟨pre, x.text, post, hsource, by rw [← hstart, hpre], by rw [← hstop, Lexeme.stop, hpre]⟩

/-- **The highlighted stretches stand in order.** -/
theorem pairwise_ofSource (source : Text) :
    (ofSource source).Pairwise fun h h' => h.stop ≤ h'.start := by
  have hspans : ((Lexeme.scanAll source).map fun x => (x.start, x.stop)).Pairwise
      fun a b => a.2 ≤ b.1 :=
    List.pairwise_map.mpr (Lexeme.pairwise_scanAll source)
  exact List.pairwise_map.mp (hspans.sublist (sublist_ofLexemes .grammar _))

end Highlight

end GrammarWorkbench
