import GrammarWorkbench.Legal.Construct

/-!
# Sets of constructs

A set of constructs is one machine word, with one bit for each construct: the bit at the place of
the construct in the order of all constructs. Members are listed in that order, whatever the order
in which they came into the set.
-/

namespace GrammarWorkbench

/-- A set of constructs, one bit each. -/
structure ConstructSet where
  bits : BitVec 64
deriving DecidableEq, Repr

namespace ConstructSet

/-- The word with the bit of one construct. -/
def bit (c : Construct) : BitVec 64 :=
  1#64 <<< c.index

/-- The set without members. -/
def empty : ConstructSet :=
  ⟨0#64⟩

/-- Put a construct into a set. -/
def insert (s : ConstructSet) (c : Construct) : ConstructSet :=
  ⟨s.bits ||| bit c⟩

/-- Take a construct out of a set. -/
def erase (s : ConstructSet) (c : Construct) : ConstructSet :=
  ⟨s.bits &&& ~~~bit c⟩

/-- Whether a construct is a member. -/
def contains (s : ConstructSet) (c : Construct) : Bool :=
  s.bits &&& bit c != 0#64

/-- The members of either of two sets. -/
def union (s t : ConstructSet) : ConstructSet :=
  ⟨s.bits ||| t.bits⟩

/-- The set of the listed constructs. -/
def ofList (cs : List Construct) : ConstructSet :=
  cs.foldl insert empty

/-- The members, in the order of all constructs. -/
def toList (s : ConstructSet) : List Construct :=
  Construct.all.filter s.contains

/-- The number of bits that are set. -/
def size (s : ConstructSet) : Nat :=
  (List.range 64).countP s.bits.getLsbD

/-- Whether no bit is set. -/
def isEmpty (s : ConstructSet) : Bool :=
  s.bits == 0#64

/-- The names of the members, between braces. -/
def display (s : ConstructSet) : Text :=
  '\x7b' :: ", ".toList.intercalate (s.toList.map Construct.name) ++ ['\x7d']

end ConstructSet

end GrammarWorkbench
