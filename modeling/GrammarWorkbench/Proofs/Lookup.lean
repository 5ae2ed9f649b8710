import Mathlib.Data.List.Basic

/-!
# Entries that are looked up by a key

Open documents and cached maps are kept as lists of entries with a key, of which the first one with
a key counts. To forget a key is to drop all its entries, and to keep a new value is to put its
entry in front.
-/

namespace GrammarWorkbench

variable {α β : Type} [DecidableEq α] [BEq α] [LawfulBEq α]

/-- **What is forgotten is not found**, and everything else is found as before. -/
theorem lookup_filter_bne (entries : List (α × β)) (k key : α) :
    (entries.filter (·.1 != k)).lookup key = if key = k then none else entries.lookup key := by
  induction entries with
  | nil => simp
  | cons entry entries ih =>
    obtain ⟨a, b⟩ := entry
    by_cases ha : a = k
    · subst ha
      by_cases hkey : key = a
      · simpa [List.filter_cons, hkey] using ih
      · simpa [List.filter_cons, List.lookup_cons, hkey, beq_eq_false_iff_ne.mpr hkey] using ih
    · by_cases hkey : key = a
      · subst hkey
        simp [ha]
      · simp [List.lookup_cons, ha, beq_eq_false_iff_ne.mpr hkey, ih]

/-- **What is kept is found**, and everything else is found as before. -/
theorem lookup_cons_eq (k : α) (b : β) (entries : List (α × β)) (key : α) :
    ((k, b) :: entries).lookup key = if key = k then some b else entries.lookup key := by
  by_cases hkey : key = k
  · simp [hkey]
  · simp [List.lookup_cons, hkey, beq_eq_false_iff_ne.mpr hkey]

end GrammarWorkbench
