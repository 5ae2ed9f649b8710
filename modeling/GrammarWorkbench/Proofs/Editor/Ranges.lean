import GrammarWorkbench.Editor.Server
import GrammarWorkbench.Proofs.Editor.Positions
import GrammarWorkbench.Proofs.Symbols.Occurrences

/-!
# The ranges of symbols and of diagnostics

What an editor is told about a place in a text is a range, two positions in UTF-16 units. A range
**spells** a text if the code units between its ends are those of the text
(`GrammarWorkbench.EditorRange.Spells`).

* **The range of a symbol spells its name** (`GrammarWorkbench.Session.symbolRange_spells`). Names
  are lexemes that hold no terminators, so that each of them stands in the content of one line, and
  the two positions of a symbol are the cuts before and after its name.
* **The range of a diagnostic begins with the character at which it stands, and ends behind it only
  if that is an ASCII character** (`GrammarWorkbench.ParseResult.diagnostic_range`). The end is
  counted in bytes, one byte behind the beginning. Inside a character of several bytes there is no
  cut, and the last cut that is not behind the end is the beginning again.
-/

namespace GrammarWorkbench

/-! ### What a range spells -/

/-- **A range spells a text**: it lies in one line, and between its ends stand the UTF-16 code units
of the text. -/
structure EditorRange.Spells (d : Document) (r : EditorRange) (x : Text) : Prop where
  line : r.stop.line = r.start.line
  isLine : r.start.line < d.index.lineCount
  le : r.start.character ≤ r.stop.character
  codes : ((d.lineText r.start.line).codes.drop r.start.character).take
    (r.stop.character - r.start.character) = x.codes

namespace Document

variable {a b t x : Text} {c : Char} {k : Nat} {l : Line}

/-- **A text stands at a position** of the source, which an editor counts as `q`: the two are the
bytes and the units before it in its line. -/
def Stands (d : Document) (p : Position) (q : EditorPosition) (x : Text) : Prop :=
  ∃ (k : Nat) (a b : Text), d.lineText k = a ++ (x ++ b) ∧ p = ⟨k + 1, a.size + 1⟩ ∧
    q = ⟨k, a.units⟩

/-- **A piece of a line is spelled by the positions around it.** -/
theorem spells_of_cut (hl : (Line.ofText t)[k]? = some l) (h : l.content = a ++ (x ++ b)) :
    EditorRange.Spells (ofText t) ⟨⟨k, a.units⟩, ⟨k, a.units + x.units⟩⟩ x := by
  refine ⟨rfl, ?_, Nat.le_add_right _ _, ?_⟩
  · rw [index_ofText, lineCount_ofText]
    exact (List.getElem?_eq_some_iff.mp hl).1
  · dsimp only
    rw [lineText_ofText hl, h, Nat.add_sub_cancel_left]
    exact Text.codes_between a x b

/-- The range between the positions around a piece of a line. -/
theorem range_of_cut (hl : (Line.ofText t)[k]? = some l) (h : l.content = a ++ (x ++ b)) :
    (ofText t).range ⟨k + 1, a.size + 1⟩ ⟨k + 1, a.size + 1 + x.size⟩ =
      ⟨⟨k, a.units⟩, ⟨k, a.units + x.units⟩⟩ := by
  have hline := (lineText_ofText hl).trans h
  have hstop : (ofText t).lineText k = (a ++ x) ++ b := by rw [hline, List.append_assoc]
  have hto := toEditor_of_cut hstop
  rw [Text.size_append, Text.units_append, Nat.add_right_comm] at hto
  rw [range, toEditor_of_cut hline, hto]

/-! ### Diagnostics -/

/-- What a diagnostic marks of the character at which it stands. -/
def marked (c : Char) : Text :=
  if c.toNat < 128 then [c] else []

theorem utf8Size_eq_one_iff : c.utf8Size = 1 ↔ c.toNat < 128 := by
  rw [Char.utf8Size_eq_one_iff, UInt32.le_iff_toNat_le]
  exact Nat.lt_succ_iff.symm

/-- One byte of a character is the character, or no character at all. -/
theorem takeBytes_one (c : Char) (t : Text) : Text.takeBytes 1 (c :: t) = marked c := by
  have hpos := c.utf8Size_pos
  rw [Text.takeBytes, marked]
  by_cases hc : c.toNat < 128
  · rw [if_pos hc, utf8Size_eq_one_iff.mpr hc, if_pos (Nat.le_refl 1), Text.takeBytes_zero]
  · have hsize := mt utf8Size_eq_one_iff.mp hc
    rw [if_neg hc, if_neg (by omega)]

/-- **The range of a diagnostic** that stands at a character. -/
theorem diagnostic_of_cut (hl : (Line.ofText t)[k]? = some l) (h : l.content = a ++ c :: b)
    {e : Diagnostic} (he : e.position = ⟨k + 1, a.size + 1⟩) :
    ((ofText t).diagnostic e).range = ⟨⟨k, a.units⟩, ⟨k, a.units + (marked c).units⟩⟩ := by
  have hline := (lineText_ofText hl).trans h
  have hstop : (ofText t).toEditor ⟨k + 1, a.size + 1 + 1⟩ = ⟨k, a.units + (marked c).units⟩ := by
    rw [toEditor]
    simp only [Nat.add_sub_cancel, hline, Text.takeBytes_append, takeBytes_one, Text.units_append]
  rw [diagnostic, range, he, toEditor_of_cut hline]
  exact congrArg _ hstop

/-- **The range of a diagnostic spells an ASCII character**, and nothing of any other one. -/
theorem diagnostic_spells (hl : (Line.ofText t)[k]? = some l) (h : l.content = a ++ c :: b)
    {e : Diagnostic} (he : e.position = ⟨k + 1, a.size + 1⟩) :
    ((ofText t).diagnostic e).range.Spells (ofText t) (marked c) := by
  rw [diagnostic_of_cut hl h he]
  by_cases hc : c.toNat < 128
  · rw [marked, if_pos hc]
    exact spells_of_cut hl h
  · rw [marked, if_neg hc]
    exact spells_of_cut (x := []) hl h

end Document

/-! ### Lexemes in their lines -/

namespace Lexeme

variable {source : Text} {x : Lexeme}

/-- **A piece at the beginning of a lexeme that holds no terminator stands in the line of the
lexeme.** -/
theorem exists_line {w rest : Text} (h : x ∈ scan source) (htext : x.text = w ++ rest)
    (hw : w.IsPlain) (hne : w ≠ []) :
    ∃ (k : Nat) (l : Line) (a b : Text), (Line.ofText source)[k]? = some l ∧
      x.position = ⟨k + 1, a.size + 1⟩ ∧ l.content = a ++ (w ++ b) := by
  obtain ⟨pre, post, hsource, hstart, -, hposition⟩ :=
    (tiles_scanFrom _ 0 source).exists_cut (List.mem_filter.mp h).1
  rw [hposition, hstart, Nat.zero_add]
  rw [htext, List.append_assoc] at hsource
  subst hsource
  exact Line.exists_of_isPlain hw hne pre (rest ++ post)

/-- A lexeme does not begin with a terminator. -/
theorem exists_head (h : x ∈ scan source) :
    ∃ c rest, x.text = c :: rest ∧ Shape.isTerminator c = false := by
  obtain ⟨-, c, u, more, -, hfirst, -, htext, -⟩ := exists_first (List.mem_filter.mp h).1
  refine ⟨c, u.take more, htext, Shape.isTerminator_of_isLayout ?_⟩
  by_contra hc
  rw [Shape.first, if_pos (eq_true_of_ne_false hc)] at hfirst
  have hshape := (Prod.mk.inj hfirst).1
  cases htoken : x.token <;> simp [shape, htoken] at hshape

/-- The text of a symbol holds no terminators. -/
theorem isPlain_of_isSymbol (h : x ∈ scan source) (hsymbol : x.token.any Token.isSymbol = true) :
    x.text.IsPlain := by
  rcases isPlain_or_comment (List.mem_filter.mp h).1 with hplain | hcomment | hopen
  · exact hplain
  · rw [hcomment] at hsymbol
    cases hsymbol
  · rw [hopen.token] at hsymbol
    cases hsymbol

end Lexeme

/-! ### Symbols -/

namespace Session

/-- **A symbol stands in one line**, and its name is the text there. -/
theorem exists_line_of_mem (session : Session) {source : Text} {e : Symbol}
    (he : e ∈ (session.symbols source).1.declared ++
      (session.symbols source).1.references.flatMap Prod.snd) :
    ∃ (k : Nat) (l : Line) (a b : Text), (Line.ofText source)[k]? = some l ∧
      e.position = ⟨k + 1, a.size + 1⟩ ∧ l.content = a ++ (e.name ++ b) := by
  obtain ⟨read, x, rest, hscan, hsymbol, hname, hposition, -⟩ := session.exists_lexeme_of_mem he
  have hmem : x ∈ Lexeme.scan source := by simp [hscan]
  have hplain := Lexeme.isPlain_of_isSymbol hmem hsymbol
  have hne : x.text ≠ [] := by
    obtain ⟨c, tail, htext, -⟩ := Lexeme.exists_head hmem
    rw [htext]
    exact List.cons_ne_nil c tail
  rw [hname, hposition]
  exact Lexeme.exists_line hmem (List.append_nil _).symm hplain hne

/-- An entry of an outline is a declaration. -/
theorem mem_declared_of_mem_outline {s : Snapshot} {e : Symbol}
    (h : e ∈ (Outline.ofSnapshot s).root.toList ++ (Outline.ofSnapshot s).entries.map Prod.snd) :
    e ∈ s.declared := by
  rcases List.mem_append.mp h with hroot | hentry
  · simp only [Snapshot.declared, List.mem_append]
    exact Or.inl (Or.inl (Or.inl hroot))
  · obtain ⟨p, hp, rfl⟩ := List.mem_map.mp hentry
    have hp := List.mem_mergeSort.mp (List.mem_filter.mp hp).1
    rw [← s.map_snd_byKind]
    exact List.mem_map_of_mem hp

/-- **The range of a symbol spells its name**, and begins where the symbol stands. This holds for
every symbol of every source whose lines and columns are words, and for every entry of its outline.
The two ends of the range are computed without faults and lose no bits. -/
theorem symbolRange_spells (session : Session) (source : Text) (hfits : source.FitsWords) :
    let d := Document.ofText source
    let answer := (session.symbols source).1
    (∀ e ∈ answer.declared ++ answer.references.flatMap Prod.snd,
      (d.symbolRange e).Spells d e.name ∧
        d.Stands e.position (d.symbolRange e).start e.name ∧
        d.toEditorStepwise e.position = .ok (d.symbolRange e).start ∧
        d.toEditorStepwise e.stop = .ok (d.symbolRange e).stop) ∧
    ∃ root entries, d.outline answer = .outline root entries ∧
      ∀ o ∈ root.toList ++ entries, ∃ e ∈ answer.declared,
        o.name = e.name ∧ o.range = d.symbolRange e ∧ o.range.Spells d o.name := by
  intro d answer
  have hsymbols (e : Symbol)
      (he : e ∈ answer.declared ++ answer.references.flatMap Prod.snd) :
      (d.symbolRange e).Spells d e.name ∧
        d.Stands e.position (d.symbolRange e).start e.name ∧
        d.toEditorStepwise e.position = .ok (d.symbolRange e).start ∧
        d.toEditorStepwise e.stop = .ok (d.symbolRange e).stop := by
    obtain ⟨k, l, a, b, hl, hposition, hcontent⟩ := session.exists_line_of_mem he
    have hstop : e.stop = ⟨k + 1, a.size + 1 + e.name.size⟩ := by rw [Symbol.stop, hposition]
    have hrange : d.symbolRange e = ⟨⟨k, a.units⟩, ⟨k, a.units + e.name.units⟩⟩ := by
      rw [Document.symbolRange, hposition, hstop]
      exact Document.range_of_cut hl hcontent
    refine ⟨?_, ⟨k, a, b, ?_, hposition, congrArg _ hrange⟩, ?_, ?_⟩
    · rw [hrange]
      exact Document.spells_of_cut hl hcontent
    · exact (Document.lineText_ofText hl).trans hcontent
    · exact Document.toEditorStepwise_of_line hfits hl (congrArg Position.line hposition)
    · exact Document.toEditorStepwise_of_line hfits hl (congrArg Position.line hstop)
  refine ⟨hsymbols, _, _, rfl, ?_⟩
  intro o ho
  obtain ⟨kind, e, he, rfl⟩ : ∃ kind e, e ∈ answer.declared ∧ o = d.outlineEntry kind e := by
    rcases List.mem_append.mp ho with hroot | hentry
    · obtain ⟨e, he, rfl⟩ := Option.map_eq_some_iff.mp (Option.mem_toList.mp hroot)
      exact ⟨_, e, mem_declared_of_mem_outline
        (List.mem_append_left _ (Option.mem_toList.mpr he)), rfl⟩
    · obtain ⟨⟨kind, e⟩, he, rfl⟩ := List.mem_map.mp hentry
      exact ⟨kind, e, mem_declared_of_mem_outline
        (List.mem_append_right _ (List.mem_map_of_mem he)), rfl⟩
  exact ⟨e, he, rfl, rfl, (hsymbols e (List.mem_append_left _ he)).1⟩

/-- A literal with a character of two units that is declared as a token, behind a comment with such
a character, in a line that ends with a return and a feed. -/
theorem symbolRange_spells_literal :
    let source : Text := "COMPILER A TOKENS /*😀*/ \"é😀\"\r\nPRODUCTIONS A = . END A.".toList
    let d := Document.ofText source
    let answer := (({} : Session).symbols source).1
    let e : Symbol := ⟨"\"é😀\"".toList, ⟨1, 28⟩, none⟩
    source.FitsWords ∧ e ∈ answer.declared ++ answer.references.flatMap Prod.snd ∧
      d.symbolRange e = ⟨⟨0, 25⟩, ⟨0, 30⟩⟩ ∧ (d.symbolRange e).Spells d e.name := by
  intro source d answer e
  have hfits : source.FitsWords := ⟨by decide +kernel, by decide +kernel⟩
  have he : e ∈ answer.declared ++ answer.references.flatMap Prod.snd := by decide +kernel
  obtain ⟨hspells, -⟩ := (symbolRange_spells ({} : Session) source hfits).1 e he
  exact ⟨hfits, he, by decide +kernel, hspells⟩

end Session

namespace ParseResult

/-- **The range of a diagnostic** begins where the lexeme begins at which the diagnostic stands, and
spells its first character if that is an ASCII character. Of any other character it spells nothing.
A diagnostic that stands at no lexeme stands at the end of the source. -/
theorem diagnostic_range (source : Text) (hfits : source.FitsWords) :
    let d := Document.ofText source
    ∀ e ∈ (ofSource source).diagnostics,
      (e.position = d.index.position source.size ∨
        ∃ x ∈ Lexeme.scan source, x.position = e.position) ∧
      ∀ x ∈ Lexeme.scan source, x.position = e.position → ∃ c rest, x.text = c :: rest ∧
        d.Stands e.position (d.diagnostic e).range.start [c] ∧
        (d.diagnostic e).range.Spells d (Document.marked c) ∧
        ((d.diagnostic e).range.Spells d [c] ↔ c.toNat < 128) ∧
        d.toEditorStepwise e.position = .ok (d.diagnostic e).range.start ∧
        d.toEditorStepwise ⟨e.position.line, e.position.column + 1⟩ =
          .ok (d.diagnostic e).range.stop := by
  intro d e he
  refine ⟨exists_lexeme_of_mem he, ?_⟩
  intro x hx hposition
  obtain ⟨c, rest, htext, hc⟩ := Lexeme.exists_head hx
  obtain ⟨k, l, a, b, hl, hplace, hcontent⟩ := Lexeme.exists_line (w := [c]) hx htext
    (Shape.isPlain_cons hc Shape.isPlain_nil) (List.cons_ne_nil _ _)
  have he : e.position = ⟨k + 1, a.size + 1⟩ := hposition.symm.trans hplace
  have hrange := Document.diagnostic_of_cut hl hcontent he
  have hspells := Document.diagnostic_spells hl hcontent he
  refine ⟨c, rest, htext, ⟨k, a, b, ?_, he, congrArg _ hrange⟩, hspells, ?_, ?_, ?_⟩
  · exact (Document.lineText_ofText hl).trans hcontent
  · constructor
    · intro hwhole
      by_contra hbeyond
      -- A range does not spell a character and nothing.
      have hcodes := hwhole.codes.symm.trans hspells.codes
      rw [Document.marked, if_neg hbeyond] at hcodes
      have hlength := congrArg List.length hcodes
      rw [Text.length_codes, Text.length_codes, Text.units_cons] at hlength
      have hpos := Text.charUnits_pos c
      simp only [Text.units_nil] at hlength
      omega
    · intro hascii
      rwa [Document.marked, if_pos hascii] at hspells
  · exact Document.toEditorStepwise_of_line hfits hl (congrArg Position.line he)
  · exact Document.toEditorStepwise_of_line hfits hl (congrArg Position.line he)

/-- An equals sign that nothing should follow but a period, behind a comment with a character of two
units. -/
theorem diagnostic_range_equals :
    let source : Text := "COMPILER A PRODUCTIONS A = /*😀*/ = . END A.".toList
    let d := Document.ofText source
    let e : Diagnostic := ⟨⟨1, 37⟩, "\".\" expected".toList⟩
    let x : Lexeme := ⟨some .equal, 36, ['='], ⟨1, 37⟩⟩
    source.FitsWords ∧ e ∈ (ofSource source).diagnostics ∧ x ∈ Lexeme.scan source ∧
      x.position = e.position ∧ (d.diagnostic e).range = ⟨⟨0, 34⟩, ⟨0, 35⟩⟩ ∧
      (d.diagnostic e).range.Spells d ['='] := by
  intro source d e x
  have hfits : source.FitsWords := ⟨by decide +kernel, by decide +kernel⟩
  have he : e ∈ (ofSource source).diagnostics := by decide +kernel
  have hx : x ∈ Lexeme.scan source := by decide +kernel
  obtain ⟨c, rest, htext, -, -, hspells, -⟩ := (diagnostic_range source hfits e he).2 x hx rfl
  obtain ⟨rfl, -⟩ := List.cons.inj htext
  exact ⟨hfits, he, hx, rfl, by decide +kernel, hspells.mpr (by decide)⟩

/-- **A diagnostic at a letter with an accent marks nothing.** -/
theorem diagnostic_marks_nothing :
    let source : Text := "COMPILER A PRODUCTIONS A = é . END A.".toList
    let d := Document.ofText source
    let e : Diagnostic := ⟨⟨1, 28⟩, "\".\" expected".toList⟩
    let x : Lexeme := ⟨some .other, 27, ['é'], ⟨1, 28⟩⟩
    source.FitsWords ∧ e ∈ (ofSource source).diagnostics ∧ x ∈ Lexeme.scan source ∧
      x.position = e.position ∧ (d.diagnostic e).range = ⟨⟨0, 27⟩, ⟨0, 27⟩⟩ ∧
      ¬(d.diagnostic e).range.Spells d ['é'] := by
  intro source d e x
  refine ⟨⟨by decide +kernel, by decide +kernel⟩, by decide +kernel, by decide +kernel, rfl,
    by decide +kernel, ?_⟩
  intro hspells
  exact absurd hspells.codes (by decide +kernel)

end ParseResult

end GrammarWorkbench
