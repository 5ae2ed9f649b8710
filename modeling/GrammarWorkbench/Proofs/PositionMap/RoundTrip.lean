import GrammarWorkbench.Proofs.PositionMap.Acceptance

/-!
# Maps that are written and read again

A map is written with its grammar on the first line and a run on every other one. The runs are read
as they were written, whatever they are, if their numbers can be read at all. So **the name of the
grammar decides**: it has to be a line that loses nothing, without a line feed in it and without a
carriage return at its end (`GrammarWorkbench.PositionMap.parse_render_iff`).
-/

namespace GrammarWorkbench

/-! ### The line of a run -/

namespace MapRun

variable {r : MapRun} {c : Char}

theorem isSplit_render (r : MapRun) : Text.IsSplit ',' r.render (r.numbers.map Text.ofNat) where
  ne_nil := by simp [numbers]
  notMem := by
    intro part hpart hcomma
    obtain ⟨n, -, rfl⟩ := List.mem_map.mp hpart
    exact absurd (Text.isDigit_of_mem_ofNat hcomma) (by decide)
  joined := rfl

/-- The line of a run is made of digits and commas. -/
theorem mem_render (h : c ∈ r.render) : c = ',' ∨ Text.isDigit c = true := by
  by_cases hc : c = ','
  · exact Or.inl hc
  · obtain ⟨part, hpart, hmem⟩ := (Text.mem_splitAt_iff hc).mpr h
    rw [Text.splitAt_eq_iff.mpr (isSplit_render r)] at hpart
    obtain ⟨n, -, rfl⟩ := List.mem_map.mp hpart
    exact Or.inr (Text.isDigit_of_mem_ofNat hmem)

theorem trim_render (r : MapRun) : r.render.trim = r.render := by
  refine Text.trim_of_forall_not fun c hc => ?_
  rcases mem_render hc with rfl | hdigit
  · rfl
  · have := Text.isDigit_iff.mp hdigit
    simp only [Text.isBlank, Bool.or_eq_false_iff, Bool.and_eq_false_iff, decide_eq_false_iff_not,
      beq_eq_false_iff_ne]
    omega

/-- **The line of a run is a row of this run**, if its numbers can be read. -/
theorem isRow_render (h : ∀ n ∈ r.numbers, n < Text.numeralLimit) : IsRow r.render r := by
  refine ⟨r.numbers.map Text.ofNat, ?_, ?_⟩
  · rw [trim_render]
    exact isSplit_render r
  · rw [List.forall₂_map_left_iff, List.forall₂_same]
    exact fun n hn => Text.isNumeral_ofNat (h n hn)

end MapRun

/-! ### The lines of a map -/

namespace PositionMap

variable {m : PositionMap}

theorem lines_runs (runs : List MapRun) :
    Text.lines (runs.flatMap fun r => r.render ++ ['\n']) = runs.map MapRun.render := by
  have hlines : ∀ line ∈ runs.map MapRun.render, '\n' ∉ line ∧ line.getLast? ≠ some '\r' := by
    intro line hline
    obtain ⟨r, -, rfl⟩ := List.mem_map.mp hline
    have hno : ∀ c ∈ r.render, c ≠ '\n' ∧ c ≠ '\r' := by
      intro c hc
      rcases MapRun.mem_render hc with rfl | hdigit
      · decide
      · constructor <;> (rintro rfl; exact absurd hdigit (by decide))
    exact ⟨fun hmem => (hno _ hmem).1 rfl, fun hlast => (hno _ (List.mem_of_getLast? hlast)).2 rfl⟩
  rw [← Text.lines_flatMap hlines, List.flatMap_map]

/-- **The name of the grammar decides.** -/
theorem lines_render (h : '\n' ∉ m.grammar) :
    m.render.lines = m.grammar.dropReturn :: m.runs.map MapRun.render := by
  rw [render, Text.lines_append h, lines_runs]

theorem parse_render (hruns : ∀ r ∈ m.runs, ∀ n ∈ r.numbers, n < Text.numeralLimit)
    (hfeed : '\n' ∉ m.grammar) (hreturn : m.grammar.getLast? ≠ some '\r') :
    parse m.render = .ok m := by
  rw [parse_eq_ok_iff, lines_render hfeed, Text.dropReturn_eq_self_iff.mpr hreturn]
  have hrow : ∀ r ∈ m.runs, MapRun.IsRow r.render r := fun r hr => MapRun.isRow_render (hruns r hr)
  have hfilter : (m.runs.map MapRun.render).filter (·.trim ≠ []) = m.runs.map MapRun.render := by
    rw [List.filter_eq_self]
    intro line hline
    obtain ⟨r, hr, rfl⟩ := List.mem_map.mp hline
    simpa using (hrow r hr).trim_ne_nil
  refine ⟨_, rfl, ?_⟩
  rw [hfilter, List.forall₂_map_left_iff, List.forall₂_same]
  exact hrow

theorem name_of_parse_render (h : parse m.render = .ok m) :
    '\n' ∉ m.grammar ∧ m.grammar.getLast? ≠ some '\r' := by
  obtain ⟨rows, hlines, -⟩ := parse_eq_ok_iff.mp h
  have hfeed := Text.notMem_of_lines_eq_cons hlines
  rw [lines_render hfeed] at hlines
  exact ⟨hfeed, Text.dropReturn_eq_self_iff.mp (List.cons.inj hlines).1⟩

/-- **Which maps survive being written and read again**: a map of which every number fits into 64
bits is read as it was written exactly if the name of its grammar has no line feed in it and no
carriage return at its end. The map that is read answers as before then. -/
theorem parse_render_iff (m : PositionMap)
    (hruns : ∀ r ∈ m.runs, ∀ n ∈ r.numbers, n < Text.numeralLimit) :
    (parse m.render = .ok m ↔ '\n' ∉ m.grammar ∧ m.grammar.getLast? ≠ some '\r') ∧
      ('\n' ∉ m.grammar → m.grammar.getLast? ≠ some '\r' →
        ∃ restored, parse m.render = .ok restored ∧
          ∀ line column, restored.lookup line column = m.lookup line column) := by
  refine ⟨⟨name_of_parse_render, fun h => parse_render hruns h.1 h.2⟩, fun hfeed hreturn => ?_⟩
  exact ⟨m, parse_render hruns hfeed hreturn, fun _ _ => rfl⟩

/-- A map with the greatest numbers, runs that could be merged, and a name that looks like a row and
has a carriage return in it. With another one at its end it is lost. -/
theorem parse_render_iff_greatest :
    let greatest := Text.numeralLimit - 1
    let runs : List MapRun := [⟨0, 0, greatest, 0, 4⟩, ⟨0, 4, greatest, 4, greatest⟩]
    let name := "1,2,3,4,5\r ".toList
    (∀ r ∈ runs, ∀ n ∈ r.numbers, n < Text.numeralLimit) ∧
      parse (render ⟨name, runs⟩) = .ok ⟨name, runs⟩ ∧
      parse (render ⟨name ++ ['\r'], runs⟩) ≠ .ok ⟨name ++ ['\r'], runs⟩ := by
  intro greatest runs name
  have hruns : ∀ r ∈ runs, ∀ n ∈ r.numbers, n < Text.numeralLimit := by decide
  refine ⟨hruns, (parse_render_iff ⟨name, runs⟩ hruns).1.mpr (by decide), fun hlost => ?_⟩
  exact ((parse_render_iff ⟨name ++ ['\r'], runs⟩ hruns).1.mp hlost).2 (by decide)

end PositionMap

end GrammarWorkbench
