import GrammarWorkbench.Proofs.Editor.Deltas

/-!
# Positions there and back

A position of a source and a position of an editor belong together if they are the two numbers of
one cut of a line, its bytes and its UTF-16 units. Such positions are turned into each other
**without loss**, and from anywhere else in a line the way leads to a cut of the same line
(`GrammarWorkbench.Document.conversions_lossless`).

There and back again is another matter. The way to the source goes on to the next cut and the way
back stays there, so that a position inside a pair of surrogates **moves forward**, and no other one
does (`GrammarWorkbench.Document.forward_iff_splitsPair`).

As they are computed, the two ways have little in common. One of them goes back from a byte until it
finds a boundary, and counts the units of what is left; the other one adds up units from character
to character, and stops as soon as it has enough. Both cut lines out of the text, and the numbers
for an editor are words. `GrammarWorkbench.Document.toEditorStepwise` and
`GrammarWorkbench.Document.toSourceStepwise` are these computations.
-/

namespace GrammarWorkbench

/-! ### Counting in a line -/

namespace Text

variable {t : Text}

/-- **A text whose lines and columns are words.** -/
structure FitsWords (t : Text) : Prop where
  lines : (Line.ofText t).length ≤ UInt32.size
  columns : ∀ l ∈ Line.ofText t, l.content.units < UInt32.size

/-- The bytes before the first character that has at least `target` units before it, or before the
end. So far there are `offset` bytes and `units` units. -/
def bytesUpTo (target offset units : Nat) : Text → Nat
  | [] => offset
  | c :: t =>
    if target ≤ units then offset
    else bytesUpTo target (offset + c.utf8Size) (units + charUnits c) t

/-- **Adding up units leads to the first cut.** -/
theorem bytesUpTo_eq (target offset units : Nat) (t : Text) :
    bytesUpTo target offset units t = offset + (takeUnits (target - units) t).size := by
  induction t generalizing offset units with
  | nil => rfl
  | cons c t ih =>
    rw [bytesUpTo]
    split
    next hle => rw [Nat.sub_eq_zero_of_le hle, takeUnits_zero, size_nil, Nat.add_zero]
    next hlt =>
      rw [ih, takeUnits, if_neg (by omega), size_cons, Nat.sub_add_eq, Nat.add_assoc]

/-- From the beginning to a cut. -/
theorem isStretch_takeBytes (n : Nat) (t : Text) : t.IsStretch 0 (takeBytes n t).size := by
  have hstretch := isStretch_append [] (takeBytes n t) (dropBytes n t)
  rwa [List.nil_append, takeBytes_append_dropBytes, size_nil, Nat.zero_add] at hstretch

theorem slice_takeBytes (n : Nat) (t : Text) :
    t.slice 0 (takeBytes n t).size = takeBytes n t := by
  have hslice := slice_append [] (takeBytes n t) (dropBytes n t)
  rwa [List.nil_append, takeBytes_append_dropBytes, size_nil, Nat.zero_add] at hslice

end Text

/-- A position in words. Too large a number loses its upper bits. -/
def EditorPosition.inWords (p : EditorPosition) : EditorPosition :=
  ⟨(UInt32.ofNat p.line).toNat, (UInt32.ofNat p.character).toNat⟩

theorem EditorPosition.line_inWords (p : EditorPosition) : p.inWords.line = p.line % 2 ^ 32 :=
  UInt32.toNat_ofNat'

theorem EditorPosition.character_inWords (p : EditorPosition) :
    p.inWords.character = p.character % 2 ^ 32 :=
  UInt32.toNat_ofNat'

theorem EditorPosition.inWords_of_lt {p : EditorPosition} (hline : p.line < UInt32.size)
    (hcharacter : p.character < UInt32.size) : p.inWords = p := by
  rw [inWords, UInt32.toNat_ofNat_of_lt' hline, UInt32.toNat_ofNat_of_lt' hcharacter]

namespace Document

open HighlightDelta (Fault bounds sliceOf bounds_eq_ok sliceOf_eq_ok isBoundary_line)

variable {a b t : Text} {l : Line} {k : Nat}

/-! ### Step by step -/

/-- The content of a line, cut out of the text. There is nothing past the last line. -/
def sliceLine (d : Document) (line : Nat) : Except Fault Text := do
  match ← bounds d line with
  | none => return []
  | some (start, stop) => sliceOf d.text start stop

/-- **A position of the source as an editor counts it**, step by step. -/
def toEditorStepwise (d : Document) (p : Position) : Except Fault EditorPosition := do
  let content ← d.sliceLine (p.line - 1)
  let before ← sliceOf content 0 (content.backOff (min (p.column - 1) content.size))
  return EditorPosition.inWords ⟨p.line - 1, before.units⟩

/-- **A position of an editor as the source counts it**, step by step. -/
def toSourceStepwise (d : Document) (p : EditorPosition) : Except Fault Position := do
  let content ← d.sliceLine p.line
  return ⟨p.line + 1, content.bytesUpTo p.character 0 0 + 1⟩

theorem lineText_of_none (h : (Line.ofText t)[k]? = none) : (ofText t).lineText k = [] := by
  rw [lineText, content?_ofText, h]
  rfl

theorem sliceLine_eq_ok (t : Text) (k : Nat) :
    (ofText t).sliceLine k = .ok ((ofText t).lineText k) := by
  rw [sliceLine, bounds_eq_ok]
  cases hl : (Line.ofText t)[k]? with
  | none =>
    rw [lineText_of_none hl]
    rfl
  | some l =>
    obtain ⟨hfirst, hlast, -⟩ := isBoundary_line hl
    have hok := sliceOf_eq_ok ⟨hfirst, hlast, Nat.le_add_right _ _⟩
    obtain ⟨pre, post, htext, hstart, -⟩ := Line.exists_cut hl
    have hslice : t.slice l.start l.contentStop = l.content := by
      rw [htext, Line.contentStop, hstart, Line.text, List.append_assoc]
      exact Text.slice_append pre l.content (l.ending ++ post)
    rw [lineText_ofText hl]
    rw [hslice] at hok
    exact hok

/-- **There are no faults on the way to an editor**, and nothing is lost but upper bits. -/
theorem toEditorStepwise_eq_ok (t : Text) (p : Position) :
    (ofText t).toEditorStepwise p = .ok ((ofText t).toEditor p).inWords := by
  rw [toEditorStepwise, sliceLine_eq_ok]
  simp only [bind, Except.bind, Text.backOff_eq, Text.takeBytes_min_size,
    sliceOf_eq_ok (Text.isStretch_takeBytes _ _), Text.slice_takeBytes]
  rfl

/-- **There are no faults on the way to the source.** -/
theorem toSourceStepwise_eq_ok (t : Text) (p : EditorPosition) :
    (ofText t).toSourceStepwise p = .ok ((ofText t).toSource p) := by
  rw [toSourceStepwise, sliceLine_eq_ok]
  simp only [bind, Except.bind, Text.bytesUpTo_eq, Nat.zero_add, Nat.sub_zero]
  rfl

/-- **In a line of a text that fits into words**, no bits are lost. -/
theorem toEditorStepwise_of_line (hfits : t.FitsWords) (hl : (Line.ofText t)[k]? = some l)
    {p : Position} (hp : p.line = k + 1) :
    (ofText t).toEditorStepwise p = .ok ((ofText t).toEditor p) := by
  have hk := (List.getElem?_eq_some_iff.mp hl).1
  have hlines := hfits.lines
  have hcolumns := hfits.columns l (List.mem_of_getElem? hl)
  have hline : p.line - 1 = k := by omega
  rw [toEditorStepwise_eq_ok, EditorPosition.inWords_of_lt]
  · simp only [toEditor, hline]
    omega
  · have hsum := congrArg Text.units (Text.takeBytes_append_dropBytes (p.column - 1) l.content)
    rw [Text.units_append] at hsum
    simp only [toEditor, hline, lineText_ofText hl]
    omega

/-! ### By cuts -/

/-- **The two positions of a cut.** -/
theorem toEditor_of_cut (h : (ofText t).lineText k = a ++ b) :
    (ofText t).toEditor ⟨k + 1, a.size + 1⟩ = ⟨k, a.units⟩ := by
  simp only [toEditor, Nat.add_sub_cancel, h, Text.takeBytes_size]

theorem toSource_of_cut (h : (ofText t).lineText k = a ++ b) :
    (ofText t).toSource ⟨k, a.units⟩ = ⟨k + 1, a.size + 1⟩ := by
  simp only [toSource, h, Text.takeUnits_units]

/-- Behind the way to the source, the units of the cut are left. -/
theorem toEditor_toSource (t : Text) (p : EditorPosition) :
    (ofText t).toEditor ((ofText t).toSource p) =
      ⟨p.line, (((ofText t).lineText p.line).takeUnits p.character).units⟩ := by
  obtain ⟨b, hcut⟩ := Text.exists_firstCut p.character ((ofText t).lineText p.line)
  exact toEditor_of_cut hcut.text

/-- **Positions are converted without loss.** In a text whose lines and columns are words, and in
each of its lines, both ways are computed without faults and lose no bits. The way to an editor and
back is the identity from every column in bytes that is a boundary of the content of the line, and
the way to the source and back is the identity from every column in units that is one. From any
column in bytes the way leads to the last cut of the content that is not behind the column, and from
any column in units it leads to the first cut that is not before it, or to the end of the
content. -/
theorem conversions_lossless (t : Text) (hfits : t.FitsWords) :
    let d := ofText t
    ∀ k l, (Line.ofText t)[k]? = some l →
      (∀ column, d.toEditorStepwise ⟨k + 1, column⟩ = .ok (d.toEditor ⟨k + 1, column⟩)) ∧
      (∀ character, d.toSourceStepwise ⟨k, character⟩ = .ok (d.toSource ⟨k, character⟩)) ∧
      (∀ column, l.content.isBoundary column = true →
        d.toSource (d.toEditor ⟨k + 1, column + 1⟩) = ⟨k + 1, column + 1⟩) ∧
      (∀ a b, l.content = a ++ b → d.toEditor (d.toSource ⟨k, a.units⟩) = ⟨k, a.units⟩) ∧
      (∀ column, ∃ a b, l.content.LastCut (column - 1) a b ∧
        d.toEditor ⟨k + 1, column⟩ = ⟨k, a.units⟩) ∧
      ∀ character, ∃ a b, l.content.FirstCut character a b ∧
        d.toSource ⟨k, character⟩ = ⟨k + 1, a.size + 1⟩ := by
  intro d k l hl
  have hline : d.lineText k = l.content := lineText_ofText hl
  refine ⟨?_, ?_, ?_, ?_, ?_, ?_⟩
  · intro column
    exact toEditorStepwise_of_line hfits hl rfl
  · intro character
    exact toSourceStepwise_eq_ok t _
  · intro column hboundary
    have hcut := hline.trans (Text.takeBytes_append_dropBytes column l.content).symm
    have hto := toEditor_of_cut hcut
    rw [Text.isBoundary_iff.mp hboundary] at hto
    rw [hto, toSource_of_cut hcut, Text.isBoundary_iff.mp hboundary]
  · intro a b hcut
    rw [toSource_of_cut (hline.trans hcut), toEditor_of_cut (hline.trans hcut)]
  · intro column
    refine ⟨_, _, Text.lastCut_takeBytes (column - 1) l.content, ?_⟩
    simp only [d, toEditor, Nat.add_sub_cancel, lineText_ofText hl]
  · intro character
    obtain ⟨b, hcut⟩ := Text.exists_firstCut character l.content
    refine ⟨_, b, hcut, ?_⟩
    simp only [d, toSource, lineText_ofText hl]

/-- A line with characters of two, three and four bytes before a pair of a return and a feed, and
the position after its last character. -/
theorem conversions_lossless_astral :
    let t : Text := "é→😀\r\nx".toList
    let d := ofText t
    t.FitsWords ∧ (Line.ofText t)[0]? = some ⟨0, "é→😀".toList, "\r\n".toList⟩ ∧
      d.toEditorStepwise ⟨1, 10⟩ = .ok ⟨0, 4⟩ ∧ d.toSource (d.toEditor ⟨1, 10⟩) = ⟨1, 10⟩ := by
  intro t d
  have hfits : t.FitsWords := ⟨by decide +kernel, by decide +kernel⟩
  have hl : (Line.ofText t)[0]? = some ⟨0, "é→😀".toList, "\r\n".toList⟩ := by decide +kernel
  obtain ⟨hstepwise, -, hback, -⟩ := conversions_lossless t hfits 0 _ hl
  have hto : d.toEditor ⟨1, 10⟩ = ⟨0, 4⟩ := by decide +kernel
  exact ⟨hfits, hl, (hstepwise 10).trans (congrArg _ hto), hback 9 (by decide +kernel)⟩

/-! ### There and back again -/

/-- **A position of an editor moves forward on the way to the source and back exactly if it splits a
pair of surrogates**, and then by one unit. It never leaves its line, even if there is no such line.
The same holds for the computation in words, whatever the text and the words are. -/
theorem forward_iff_splitsPair (t : Text) :
    let d := ofText t
    (∀ p, (d.toEditor (d.toSource p)).line = p.line ∧
      (d.toEditor (d.toSource p)).character ≤ p.character + 1 ∧
      (p.character < (d.toEditor (d.toSource p)).character ↔
        (d.lineText p.line).SplitsPair p.character)) ∧
    ∀ line character : UInt32,
      let p : EditorPosition := ⟨line.toNat, character.toNat⟩
      ∃ back, (d.toSourceStepwise p).bind d.toEditorStepwise = .ok back ∧ back.line = p.line ∧
        (back.character ≤ p.character ∨
          (d.lineText p.line).SplitsPair p.character ∧ back.character = p.character + 1) := by
  intro d
  have hback (p : EditorPosition) : d.toEditor (d.toSource p) =
      ⟨p.line, ((d.lineText p.line).takeUnits p.character).units⟩ := toEditor_toSource t p
  constructor
  · intro p
    rw [hback]
    dsimp only
    rcases Text.units_takeUnits_cases p.character (d.lineText p.line) with
      ⟨hle, hsplits⟩ | ⟨heq, hsplits⟩
    · exact ⟨rfl, by omega, iff_of_false (by omega) hsplits⟩
    · exact ⟨rfl, by omega, iff_of_true (by omega) hsplits⟩
  · intro line character p
    have hline : p.line < 2 ^ 32 := line.toNat_lt
    have hcharacter : p.character < 2 ^ 32 := character.toNat_lt
    have hto : (d.toSourceStepwise p).bind d.toEditorStepwise =
        .ok (d.toEditor (d.toSource p)).inWords := by
      rw [toSourceStepwise_eq_ok]
      exact toEditorStepwise_eq_ok t _
    refine ⟨_, hto, ?_, ?_⟩
    · rw [hback, EditorPosition.line_inWords]
      exact Nat.mod_eq_of_lt hline
    · rw [hback, EditorPosition.character_inWords]
      dsimp only
      rcases Text.units_takeUnits_cases p.character (d.lineText p.line) with
        ⟨hle, -⟩ | ⟨heq, hsplits⟩
      · exact Or.inl (Nat.le_trans (Nat.mod_le _ _) hle)
      · -- One unit behind the last word there is no word, and what is left of it is zero.
        rw [heq]
        rcases Nat.lt_or_ge (p.character + 1) (2 ^ 32) with hword | hword
        · exact Or.inr ⟨hsplits, Nat.mod_eq_of_lt hword⟩
        · exact Or.inl (by omega)

/-- **Between the surrogates before a name**, the way to the source leads to the name, and the way
back stays there. -/
theorem forward_before_name :
    let t : Text := "COMPILER A PRODUCTIONS A = (.\n😀A .) . END A.".toList
    let d := ofText t
    let p : EditorPosition := ⟨1, 1⟩
    d.toSource p = ⟨2, 5⟩ ∧ d.toEditor (d.toSource p) = ⟨1, 2⟩ ∧
      ¬((d.toEditor (d.toSource p)).line = p.line ∧
        (d.toEditor (d.toSource p)).character ≤ p.character) := by
  decide +kernel

end Document

end GrammarWorkbench
