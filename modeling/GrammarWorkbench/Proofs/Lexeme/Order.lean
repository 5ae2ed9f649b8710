import GrammarWorkbench.Proofs.Lexeme.Rules
import GrammarWorkbench.Proofs.Source.Lines

/-!
# The lexemes of a source stand in order

Every piece of a source has at least one character, so that each lexeme starts after the one before
it and before the end of the source. Positions are ordered like offsets, hence the same holds of the
positions of lexemes, which is all that parsing knows about their places.
-/

namespace GrammarWorkbench

namespace Position

variable {p q r : Position}

theorem lt_trans (h : p < q) (h' : q < r) : p < r := by
  simp only [lt_iff] at *
  omega

theorem lt_irrefl (p : Position) : ¬p < p := by
  simp [lt_iff]

/-- What comes after a position that is not before `r` is not before `r` either. -/
theorem not_lt_of_lt (h : p < q) (hp : ¬p < r) : ¬q < r :=
  fun hq => hp (lt_trans h hq)

end Position

namespace Lexeme

variable {index : LineIndex} {offset : Nat} {t : Text} {x : Lexeme}

/-- **Where the lexemes of a text are**: inside the text, in increasing order. -/
theorem scanFrom_spec (index : LineIndex) (offset : Nat) (t : Text) :
    (∀ x ∈ scanFrom index offset t, offset ≤ x.start ∧ x.start < offset + t.size ∧
        x.position = index.position x.start) ∧
      (scanFrom index offset t).Pairwise fun x y => x.start < y.start := by
  -- The recursion drops one piece at a time, which the induction follows.
  fun_induction scanFrom index offset t with
  | case1 => simp
  | case2 offset c t shape more hfirst piece ih =>
    obtain ⟨hplace, horder⟩ := ih
    have hpiece : c.utf8Size ≤ Text.size piece := Nat.le_add_right _ _
    have hpos := c.utf8Size_pos
    have hsize : Text.size (c :: t) = Text.size piece + Text.size (t.drop more) := by
      rw [← Text.size_append, List.cons_append, List.take_append_drop]
    have hfirst : ∀ x ∈ (ofShape? index offset shape piece).toList,
        x.start = offset ∧ x.position = index.position offset := by
      intro x hx
      obtain ⟨-, hstart, -, hposition⟩ := ofShape?_eq_some (Option.mem_toList.mp hx)
      exact ⟨hstart, hposition⟩
    constructor
    · intro x hx
      rcases List.mem_append.mp hx with hx | hx
      · obtain ⟨hstart, hposition⟩ := hfirst x hx
        exact ⟨by omega, by omega, by rw [hposition, hstart]⟩
      · obtain ⟨hle, hlt, hposition⟩ := hplace x hx
        exact ⟨by omega, by omega, hposition⟩
    · refine List.pairwise_append.mpr ⟨?_, horder, ?_⟩
      · cases ofShape? index offset shape piece <;> simp
      · intro x hx y hy
        obtain ⟨hstart, -⟩ := hfirst x hx
        obtain ⟨hle, -, -⟩ := hplace y hy
        omega

/-- **The positions of the lexemes of a source increase.** -/
theorem pairwise_scan (source : Text) :
    (scan source).Pairwise fun x y => x.position < y.position := by
  obtain ⟨hplace, horder⟩ := scanFrom_spec (.ofText source) 0 source
  refine List.Pairwise.filter _ ?_
  refine horder.imp_of_mem ?_
  intro x y hx hy hlt
  obtain ⟨-, -, hpx⟩ := hplace x hx
  obtain ⟨-, -, hpy⟩ := hplace y hy
  rw [hpx, hpy]
  exact LineIndex.position_lt source hlt

/-- **Every lexeme of a source stands before its end.** -/
theorem position_lt_of_mem_scan {source : Text} (h : x ∈ scan source) :
    x.position < (LineIndex.ofText source).position source.size := by
  obtain ⟨hplace, -⟩ := scanFrom_spec (.ofText source) 0 source
  obtain ⟨-, hlt, hposition⟩ := hplace x (List.mem_filter.mp h).1
  rw [hposition]
  exact LineIndex.position_lt source (by omega)

end Lexeme

end GrammarWorkbench
