import GrammarWorkbench.Legal.Table
import Mathlib.Data.List.Basic

/-!
# The members of a set of constructs

Membership is a test of one bit. Different constructs have different bits, all of them inside the
word (`GrammarWorkbench.Construct.index_lt`, `GrammarWorkbench.Construct.index_injective`), so that
putting a construct into a set adds it and nothing else.
-/

namespace GrammarWorkbench

namespace Construct

theorem mem_all (c : Construct) : c ∈ all := by
  cases c <;> decide

/-- Every construct has a bit in the word. -/
theorem index_lt (c : Construct) : c.index < 64 :=
  Nat.lt_trans (List.idxOf_lt_length_of_mem (mem_all c)) (by decide)

/-- No two constructs share a bit. -/
theorem index_injective : Function.Injective index := by
  intro c d h
  exact (List.idxOf_inj (mem_all c)).mp h

theorem pairwise_all : all.Pairwise fun c d => c.index < d.index := by
  decide

end Construct

namespace ConstructSet

variable (s : ConstructSet) (c k : Construct)

theorem getLsbD_bit (i : Nat) : (bit c).getLsbD i = decide (c.index = i) := by
  have h := BitVec.getLsbD_twoPow (w := 64) c.index i
  rw [BitVec.twoPow_eq] at h
  rw [bit, h, decide_eq_true c.index_lt, Bool.true_and]

/-- **Membership is a bit.** -/
theorem contains_eq_getLsbD : s.contains c = s.bits.getLsbD c.index := by
  have hbit : bit c = BitVec.twoPow 64 c.index := (BitVec.twoPow_eq 64 c.index).symm
  rw [contains, hbit, BitVec.and_twoPow]
  cases h : s.bits.getLsbD c.index with
  | false => rfl
  | true =>
    have hne : BitVec.twoPow 64 c.index ≠ 0#64 := by
      intro h0
      have hlsb := getLsbD_bit c c.index
      rw [hbit, h0] at hlsb
      simp at hlsb
    simpa using hne

@[simp]
theorem contains_empty : empty.contains c = false := by
  simp [contains_eq_getLsbD, empty]

@[simp]
theorem contains_insert : (s.insert c).contains k = (s.contains k || c == k) := by
  rw [contains_eq_getLsbD, contains_eq_getLsbD, insert, BitVec.getLsbD_or, getLsbD_bit]
  congr 1
  rw [beq_eq_decide, decide_eq_decide]
  exact Construct.index_injective.eq_iff

theorem contains_foldl_insert (cs : List Construct) :
    (cs.foldl insert s).contains k = (s.contains k || cs.contains k) := by
  induction cs generalizing s with
  | nil => simp
  | cons c cs ih =>
    rw [List.foldl_cons, ih, contains_insert, List.contains_cons, Bool.or_assoc, Bool.beq_comm]

/-- **The members of a listed set are the listed constructs.** -/
@[simp]
theorem contains_ofList (cs : List Construct) : (ofList cs).contains k = cs.contains k := by
  rw [ofList, contains_foldl_insert, contains_empty, Bool.false_or]

/-- **The listed members are the members.** -/
theorem mem_toList {s : ConstructSet} {c : Construct} :
    c ∈ s.toList ↔ s.contains c = true := by
  simp [toList, Construct.mem_all]

/-- **Members are listed in the order of all constructs.** -/
theorem pairwise_toList : s.toList.Pairwise fun c d => c.index < d.index :=
  Construct.pairwise_all.filter _

/-- **What is legal at a place** follows its checkpoint, or closes the innermost open bracket. -/
theorem contains_legal {c : Checkpoint} {top : Option Brace} {k : Construct} :
    (legal (some c) top).contains k = true ↔
      k ∈ c.follow ∨ c.isInsideExpression = true ∧ top.map Brace.closing = some k := by
  cases hin : c.isInsideExpression <;> cases top <;> simp [legal, hin]

end ConstructSet

end GrammarWorkbench
