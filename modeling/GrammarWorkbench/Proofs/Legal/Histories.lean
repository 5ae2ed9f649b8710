import GrammarWorkbench.Proofs.Legal.Members
import Mathlib.Data.Finset.Card
import Mathlib.Data.Finset.SDiff

/-!
# A set of constructs is its members

Two sets of constructs are compared by their words and counted by their bits, but tested and listed
construct by construct. These views agree only because a word has no other bits than those of
constructs. The word has 64 bits and there are 36 constructs, so this is a fact about how sets come
about: complements and unions of arbitrary words would break it.

The invariant is `GrammarWorkbench.ConstructSet.IsWordOf`: **the bits of the word are the places of
the members**, in both directions. It says what the members are and that there is nothing else, so
that a word and a finite set of constructs determine each other
(`GrammarWorkbench.ConstructSet.IsWordOf.eq_iff`). Each operation keeps it along with the operation
of the same name on finite sets, and so does every history of operations
(`GrammarWorkbench.ConstructSet.History.isWordOf_run`).
-/

namespace GrammarWorkbench

namespace Construct

/-- The place of a construct in the list of all of them is its place in the declaration. -/
theorem index_eq_ctorIdx (c : Construct) : c.index = c.ctorIdx := by
  cases c <;> rfl

theorem index_lt_length_all (c : Construct) : c.index < all.length :=
  List.idxOf_lt_length_of_mem (mem_all c)

end Construct

namespace ConstructSet

variable {s t : ConstructSet} {m n : Finset Construct} {c : Construct}

/-- **A set is the word of its members**: the bits that are set are the places of the members. -/
def IsWordOf (s : ConstructSet) (m : Finset Construct) : Prop :=
  ∀ i, s.bits.getLsbD i = true ↔ ∃ c ∈ m, c.index = i

/-! ### The operations -/

theorem isWordOf_empty : IsWordOf empty ∅ := by
  intro i
  simp [empty]

theorem IsWordOf.insert (h : s.IsWordOf m) (c : Construct) : (s.insert c).IsWordOf (m ∪ {c}) := by
  intro i
  rw [ConstructSet.insert, BitVec.getLsbD_or, Bool.or_eq_true, h i, getLsbD_bit,
    decide_eq_true_eq]
  constructor
  · rintro (⟨d, hd, hi⟩ | hi)
    · exact ⟨d, Finset.mem_union_left _ hd, hi⟩
    · exact ⟨c, Finset.mem_union_right _ (Finset.mem_singleton_self c), hi⟩
  · rintro ⟨d, hd, hi⟩
    rcases Finset.mem_union.mp hd with hd | hd
    · exact Or.inl ⟨d, hd, hi⟩
    · exact Or.inr (Finset.mem_singleton.mp hd ▸ hi)

/-- The complement of a bit sets all the upper bits as well, and the set that it is applied to has
none of them. -/
theorem IsWordOf.erase (h : s.IsWordOf m) (c : Construct) : (s.erase c).IsWordOf (m \ {c}) := by
  intro i
  rw [ConstructSet.erase, BitVec.getLsbD_and, Bool.and_eq_true, h i]
  constructor
  · rintro ⟨⟨d, hd, rfl⟩, hbit⟩
    have hne : d ≠ c := by
      rintro rfl
      simp [getLsbD_bit] at hbit
    exact ⟨d, Finset.mem_sdiff.mpr ⟨hd, mt Finset.mem_singleton.mp hne⟩, rfl⟩
  · rintro ⟨d, hd, rfl⟩
    obtain ⟨hd, hne⟩ := Finset.mem_sdiff.mp hd
    have hindex : c.index ≠ d.index := by
      intro heq
      exact hne (Finset.mem_singleton.mpr (Construct.index_injective heq.symm))
    refine ⟨⟨d, hd, rfl⟩, ?_⟩
    rw [BitVec.getLsbD_not, getLsbD_bit, decide_eq_true d.index_lt, decide_eq_false hindex]
    rfl

theorem IsWordOf.union (h : s.IsWordOf m) (k : t.IsWordOf n) : (s.union t).IsWordOf (m ∪ n) := by
  intro i
  rw [ConstructSet.union, BitVec.getLsbD_or, Bool.or_eq_true, h i, k i]
  constructor
  · rintro (⟨d, hd, hi⟩ | ⟨d, hd, hi⟩)
    · exact ⟨d, Finset.mem_union_left _ hd, hi⟩
    · exact ⟨d, Finset.mem_union_right _ hd, hi⟩
  · rintro ⟨d, hd, hi⟩
    rcases Finset.mem_union.mp hd with hd | hd
    · exact Or.inl ⟨d, hd, hi⟩
    · exact Or.inr ⟨d, hd, hi⟩

theorem IsWordOf.foldl_insert (h : s.IsWordOf m) (cs : List Construct) :
    (cs.foldl ConstructSet.insert s).IsWordOf (m ∪ cs.toFinset) := by
  induction cs generalizing s m with
  | nil => simpa using h
  | cons c cs ih =>
    have hcs := ih (h.insert c)
    rwa [Finset.union_assoc, ← Finset.insert_eq, ← List.toFinset_cons] at hcs

theorem isWordOf_ofList (cs : List Construct) : (ofList cs).IsWordOf cs.toFinset := by
  have h := isWordOf_empty.foldl_insert cs
  rwa [Finset.empty_union] at h

/-! ### The word and the members determine each other -/

/-- **There are no bits above those of the constructs.** -/
theorem IsWordOf.getLsbD_of_le (h : s.IsWordOf m) {i : Nat} (hi : Construct.all.length ≤ i) :
    s.bits.getLsbD i = false := by
  refine eq_false_of_ne_true fun hbit => ?_
  obtain ⟨c, -, rfl⟩ := (h i).mp hbit
  exact absurd c.index_lt_length_all (Nat.not_lt.mpr hi)

theorem IsWordOf.contains_iff (h : s.IsWordOf m) : s.contains c = true ↔ c ∈ m := by
  rw [contains_eq_getLsbD, h]
  constructor
  · rintro ⟨d, hd, hindex⟩
    rwa [← Construct.index_injective hindex]
  · intro hc
    exact ⟨c, hc, rfl⟩

/-- **Words are equal exactly if the members are the same.** -/
theorem IsWordOf.eq_iff (h : s.IsWordOf m) (k : t.IsWordOf n) : s = t ↔ m = n := by
  constructor
  · rintro rfl
    ext c
    rw [← h.contains_iff, k.contains_iff]
  · rintro rfl
    have hbits : s.bits = t.bits := by
      refine BitVec.eq_of_getLsbD_eq fun i _ => ?_
      rw [Bool.eq_iff_iff, h i, k i]
    cases s
    cases t
    exact congrArg ConstructSet.mk hbits

theorem IsWordOf.isEmpty_iff (h : s.IsWordOf m) : s.isEmpty = true ↔ m = ∅ := by
  rw [← h.eq_iff isWordOf_empty, isEmpty, beq_iff_eq]
  constructor
  · intro hbits
    cases s
    exact congrArg ConstructSet.mk hbits
  · rintro rfl
    rfl

/-! ### Listing and counting -/

/-- Members are listed once. -/
theorem nodup_toList (s : ConstructSet) : s.toList.Nodup :=
  (pairwise_toList s).imp fun hlt => by
    rintro rfl
    exact Nat.lt_irrefl _ hlt

theorem IsWordOf.toFinset_toList (h : s.IsWordOf m) : s.toList.toFinset = m := by
  ext c
  rw [List.mem_toFinset, mem_toList, h.contains_iff]

theorem IsWordOf.length_toList (h : s.IsWordOf m) : s.toList.length = m.card := by
  rw [← List.toFinset_card_of_nodup (nodup_toList s), h.toFinset_toList]

/-- **Bits are counted instead of members.** All members have their places among the 64. -/
theorem IsWordOf.size_eq (h : s.IsWordOf m) : s.size = m.card := by
  have hplaces : ((List.range 64).filter s.bits.getLsbD).toFinset = m.image Construct.index := by
    ext i
    rw [List.mem_toFinset, List.mem_filter, List.mem_range, Finset.mem_image, h i]
    constructor
    · exact And.right
    · rintro ⟨c, hc, rfl⟩
      exact ⟨c.index_lt, c, hc, rfl⟩
  rw [size, List.countP_eq_length_filter,
    ← List.toFinset_card_of_nodup (List.nodup_range.filter _), hplaces,
    Finset.card_image_of_injective _ Construct.index_injective]

/-! ### Histories -/

/-- **How a set comes about**: the operations that lead to it from the set without members. -/
inductive History where
  | empty
  | ofList (cs : List Construct)
  | insert (h : History) (c : Construct)
  | erase (h : History) (c : Construct)
  | union (h k : History)

namespace History

/-- The set to which a history leads. -/
def run : History → ConstructSet
  | empty => ConstructSet.empty
  | ofList cs => ConstructSet.ofList cs
  | insert h c => h.run.insert c
  | erase h c => h.run.erase c
  | union h k => h.run.union k.run

/-- The finite set to which the operations of a history lead. -/
def members : History → Finset Construct
  | empty => ∅
  | ofList cs => cs.toFinset
  | insert h c => h.members ∪ {c}
  | erase h c => h.members \ {c}
  | union h k => h.members ∪ k.members

/-- **Every history leads to the word of its members.** -/
theorem isWordOf_run (h : History) : h.run.IsWordOf h.members := by
  induction h with
  | empty => exact isWordOf_empty
  | ofList cs => exact isWordOf_ofList cs
  | insert h c ih => exact ih.insert c
  | erase h c ih => exact ih.erase c
  | union h k ihh ihk => exact ihh.union ihk

/-- **A set of constructs is its members**, whatever operations it comes from. No bit of its word is
set but those of the 36 constructs. It contains the members of the finite set that the same
operations make, and lists each of them once, in the order in which constructs are declared. Its
size is the number of constructs that are listed, and it is empty if there are none. Two sets are
equal exactly if they have the same members. -/
theorem extensional (h : History) :
    let s := h.run
    (∀ i, 36 ≤ i → s.bits.getLsbD i = false) ∧
      (∀ c, s.contains c = true ↔ c ∈ h.members) ∧
      (∀ c, c ∈ s.toList ↔ c ∈ h.members) ∧ s.toList.Nodup ∧
      s.toList.Pairwise (fun c d => c.ctorIdx < d.ctorIdx) ∧
      s.size = s.toList.length ∧ (s.isEmpty = true ↔ s.toList = []) ∧
      ∀ k : History, s = k.run ↔ ∀ c, s.contains c = k.run.contains c := by
  intro s
  have hword : s.IsWordOf h.members := h.isWordOf_run
  refine ⟨fun i hi => hword.getLsbD_of_le hi, fun c => hword.contains_iff, fun c => ?_,
    nodup_toList s, ?_, ?_, ?_, fun k => ?_⟩
  · rw [mem_toList, hword.contains_iff]
  · refine (pairwise_toList s).imp fun {c d} hlt => ?_
    rwa [← c.index_eq_ctorIdx, ← d.index_eq_ctorIdx]
  · rw [hword.size_eq, hword.length_toList]
  · rw [hword.isEmpty_iff, ← List.length_eq_zero_iff, hword.length_toList, Finset.card_eq_zero]
  · have hother : k.run.IsWordOf k.members := k.isWordOf_run
    rw [hword.eq_iff hother, Finset.ext_iff]
    refine forall_congr' fun c => ?_
    rw [Bool.eq_iff_iff, hword.contains_iff, hother.contains_iff]

/-- An upper bit is no construct, and only the operations keep it out. -/
example : (ConstructSet.mk (1#64 <<< 40)).toList = [] ∧
    (ConstructSet.mk (1#64 <<< 40)).isEmpty = false := by decide

end History

end ConstructSet

end GrammarWorkbench
