import GrammarWorkbench.Symbol
import Mathlib.Data.Char
import Mathlib.Data.List.Lex

/-!
# The uses of names as a map

The uses of a grammar are kept in a list of names in increasing order. As long as they are, the list
is a map from names to their uses: a use is added to its own name and changes nothing else
(`GrammarWorkbench.References.get_add`), and its entries hold all uses, each of them once
(`GrammarWorkbench.References.Sorted.perm_flatMap`).
-/

namespace GrammarWorkbench

namespace References

variable {refs : References} {n name : Text} {use : Symbol}

/-- The names stand in increasing order, none of them twice. -/
def Sorted (refs : References) : Prop :=
  refs.names.Pairwise (· < ·)

theorem sorted_nil : Sorted [] := List.Pairwise.nil

@[simp]
theorem get_nil (n : Text) : get n [] = [] := rfl

@[simp]
theorem names_cons (uses : List Symbol) : names ((n, uses) :: refs) = n :: refs.names := rfl

theorem get_cons (uses : List Symbol) :
    get name ((n, uses) :: refs) = if name = n then uses else refs.get name := by
  by_cases h : name = n
  · rw [get, if_pos h, List.lookup_cons, beq_iff_eq.mpr h]
    rfl
  · rw [get, if_neg h, List.lookup_cons, beq_eq_false_iff_ne.mpr h]
    rfl

theorem get_of_notMem (h : n ∉ refs.names) : refs.get n = [] := by
  induction refs with
  | nil => rfl
  | cons entry refs ih =>
    obtain ⟨m, uses⟩ := entry
    rw [names_cons, List.mem_cons, not_or] at h
    rw [get_cons, if_neg h.1, ih h.2]

/-- A name is used once it has been added. -/
theorem mem_names_add : n ∈ (refs.add name use).names ↔ n = name ∨ n ∈ refs.names := by
  induction refs with
  | nil => simp [add, names]
  | cons entry refs ih =>
    obtain ⟨m, uses⟩ := entry
    rw [add]
    split
    next h => simp [h]
    next h =>
      split
      · rw [names_cons, names_cons, List.mem_cons, List.mem_cons, ih]
        exact or_left_comm
      · simp

theorem Sorted.add (h : refs.Sorted) (name : Text) (use : Symbol) :
    (refs.add name use).Sorted := by
  induction refs with
  | nil => exact List.pairwise_singleton _ _
  | cons entry refs ih =>
    obtain ⟨m, uses⟩ := entry
    obtain ⟨hfirst, hrest⟩ := List.pairwise_cons.mp h
    rw [References.add]
    split
    next => exact h
    next hne =>
      split
      next hlt =>
        refine List.pairwise_cons.mpr ⟨?_, ih hrest⟩
        intro k hk
        rcases mem_names_add.mp hk with rfl | hk
        · exact hlt
        · exact hfirst k hk
      next hnot =>
        have hname : name < m := (lt_or_gt_of_ne hne).resolve_left hnot
        refine List.pairwise_cons.mpr ⟨?_, h⟩
        intro k hk
        rcases List.mem_cons.mp hk with rfl | hk
        · exact hname
        · exact lt_trans hname (hfirst k hk)

/-- **A use is added to its own name**, after the earlier uses, and to no other name. -/
theorem get_add (h : refs.Sorted) :
    (refs.add name use).get n = if n = name then refs.get n ++ [use] else refs.get n := by
  induction refs with
  | nil => rw [References.add, get_cons, get_nil, List.nil_append]
  | cons entry refs ih =>
    obtain ⟨m, uses⟩ := entry
    obtain ⟨hfirst, hrest⟩ := List.pairwise_cons.mp h
    rw [References.add]
    split
    next heq =>
      subst heq
      rw [get_cons, get_cons]
      split <;> rfl
    next hne =>
      split
      next hlt =>
        rw [get_cons, get_cons, ih hrest]
        by_cases hnm : n = m
        · rw [if_pos hnm, if_pos hnm, if_neg (hnm ▸ hne)]
        · rw [if_neg hnm, if_neg hnm]
      next hnot =>
        rw [get_cons]
        split
        next hn =>
          -- The name is smaller than all the others, and is therefore new.
          have hname : name < m := (lt_or_gt_of_ne hne).resolve_left hnot
          have hnew : name ∉ References.names ((m, uses) :: refs) := by
            rw [names_cons, List.mem_cons, not_or]
            refine ⟨Ne.symm hne, ?_⟩
            intro hmem
            exact lt_asymm hname (hfirst name hmem)
          rw [hn, get_of_notMem hnew, List.nil_append]
        next hn => rfl

/-! ### All uses together -/

/-- An entry holds the uses of its name. -/
theorem Sorted.get_of_mem (h : refs.Sorted) {uses : List Symbol} (hmem : (n, uses) ∈ refs) :
    refs.get n = uses := by
  induction refs with
  | nil => simp at hmem
  | cons entry refs ih =>
    obtain ⟨m, first⟩ := entry
    obtain ⟨hfirst, hrest⟩ := List.pairwise_cons.mp h
    rw [get_cons]
    rcases List.mem_cons.mp hmem with heq | hmem
    · obtain ⟨rfl, rfl⟩ := Prod.mk.inj heq
      rw [if_pos rfl]
    · have hlt := hfirst n (List.mem_map_of_mem hmem)
      rw [if_neg (ne_of_gt hlt), ih hrest hmem]

/-- Sorting by names loses and adds nothing. -/
theorem perm_flatMap_filter (uses : List Symbol) {names : List Text} (h : names.Nodup) :
    (names.flatMap fun n => uses.filter (·.name = n)).Perm (uses.filter (·.name ∈ names)) := by
  induction names with
  | nil => simp
  | cons n names ih =>
    obtain ⟨hn, hnames⟩ := List.nodup_cons.mp h
    have hsplit : (uses.filter (·.name ∈ n :: names)).Perm
        (uses.filter (·.name = n) ++ uses.filter (·.name ∈ names)) := by
      refine (List.filter_append_perm (·.name = n) _).symm.trans ?_
      rw [List.filter_filter, List.filter_filter]
      refine List.Perm.append (List.Perm.of_eq ?_) (List.Perm.of_eq ?_)
      · refine List.filter_congr ?_
        intro use _
        by_cases huse : use.name = n <;> simp [huse]
      · refine List.filter_congr ?_
        intro use _
        by_cases huse : use.name = n
        · simp [huse, hn]
        · simp [huse]
    rw [List.flatMap_cons]
    exact ((ih hnames).append_left _).trans hsplit.symm

/-- **The entries of the map hold all uses**, each of them once. -/
theorem Sorted.perm_flatMap (h : refs.Sorted) {uses : List Symbol}
    (hget : ∀ name, refs.get name = uses.filter (·.name = name))
    (hnames : ∀ name, name ∈ refs.names ↔ ∃ use ∈ uses, use.name = name) :
    (refs.flatMap Prod.snd).Perm uses := by
  have hflat : refs.flatMap Prod.snd = refs.names.flatMap fun n => uses.filter (·.name = n) := by
    rw [names, List.flatMap_map]
    refine List.flatMap_congr ?_
    rintro ⟨n, us⟩ hmem
    rw [← hget, h.get_of_mem hmem]
  have hall : uses.filter (·.name ∈ refs.names) = uses := by
    rw [List.filter_eq_self]
    intro use huse
    simpa using (hnames use.name).mpr ⟨use, huse, rfl⟩
  have hnodup : refs.names.Nodup := h.imp fun hlt => ne_of_lt hlt
  have hperm := perm_flatMap_filter uses hnodup
  rw [hall] at hperm
  rw [hflat]
  exact hperm

end References

end GrammarWorkbench
