import LogView.Unicode.Folding
import LogView.Unicode.RangeTable

/-!
# Sets of characters

A set of characters is a list of ranges of code points, the lowest first and as few as possible.
Code points that are no characters make no difference.  Closing a set under case folding adds
every character that is like one of its members up to case.
-/

namespace LogView
namespace Pattern

open Unicode

/-- Ranges, first and last, in increasing order: none is empty, and none touches the next one. -/
def InOrder (ranges : List (Nat × Nat)) : Prop :=
  (∀ range ∈ ranges, range.1 ≤ range.2) ∧ ranges.Pairwise fun range next => range.2 + 1 < next.1

namespace InOrder

theorem cons {range : Nat × Nat} {ranges : List (Nat × Nat)} (filled : range.1 ≤ range.2)
    (below : ∀ next ∈ ranges, range.2 + 1 < next.1) (ordered : InOrder ranges) :
    InOrder (range :: ranges) :=
  ⟨List.forall_mem_cons.mpr ⟨filled, ordered.1⟩, List.pairwise_cons.mpr ⟨below, ordered.2⟩⟩

theorem singleton {range : Nat × Nat} (filled : range.1 ≤ range.2) : InOrder [range] :=
  cons filled (List.forall_mem_nil _) ⟨List.forall_mem_nil _, .nil⟩

theorem tail {range : Nat × Nat} {ranges : List (Nat × Nat)} (ordered : InOrder (range :: ranges)) :
    InOrder ranges :=
  ⟨fun next mem => ordered.1 next (List.mem_cons_of_mem _ mem), (List.pairwise_cons.mp ordered.2).2⟩

theorem filled {range : Nat × Nat} {ranges : List (Nat × Nat)}
    (ordered : InOrder (range :: ranges)) : range.1 ≤ range.2 :=
  ordered.1 range List.mem_cons_self

theorem below {range : Nat × Nat} {ranges : List (Nat × Nat)}
    (ordered : InOrder (range :: ranges)) : ∀ next ∈ ranges, range.2 + 1 < next.1 :=
  (List.pairwise_cons.mp ordered.2).1

end InOrder

/-- Adds a range, and joins it to those that it touches. -/
def addRange (low high : Nat) : List (Nat × Nat) → List (Nat × Nat)
  | [] => [(low, high)]
  | (first, last) :: rest =>
    if high + 1 < first then (low, high) :: (first, last) :: rest
    else if last + 1 < low then (first, last) :: addRange low high rest
    else addRange (min low first) (max high last) rest

theorem lt_of_mem_addRange {bound low high : Nat} {ranges : List (Nat × Nat)} (above : bound < low)
    (above' : ∀ range ∈ ranges, bound < range.1) :
    ∀ range ∈ addRange low high ranges, bound < range.1 := by
  induction ranges generalizing low high with
  | nil => simpa [addRange] using above
  | cons range ranges ih =>
    obtain ⟨first, rest⟩ := List.forall_mem_cons.mp above'
    unfold addRange
    split
    · exact List.forall_mem_cons.mpr ⟨above, above'⟩
    · split
      · exact List.forall_mem_cons.mpr ⟨first, ih above rest⟩
      · exact ih (Nat.lt_min.mpr ⟨above, first⟩) rest

theorem InOrder.addRange {low high : Nat} {ranges : List (Nat × Nat)} (filled : low ≤ high)
    (ordered : InOrder ranges) : InOrder (addRange low high ranges) := by
  induction ranges generalizing low high with
  | nil => exact .singleton filled
  | cons range ranges ih =>
    have filled' := ordered.filled
    unfold Pattern.addRange
    split
    · next before =>
      refine .cons filled (List.forall_mem_cons.mpr ⟨before, fun next mem => ?_⟩) ordered
      have far := ordered.below next mem
      omega
    · split
      · next behind =>
        exact .cons filled' (lt_of_mem_addRange behind ordered.below) (ih filled ordered.tail)
      · exact ih (by omega) ordered.tail

theorem InOrder.gaps {start : Nat} {ranges : List (Nat × Nat)} (ordered : InOrder ranges)
    (above : ∀ range ∈ ranges, start ≤ range.1) :
    InOrder (RangeTable.gaps start ranges) ∧
      ∀ gap ∈ RangeTable.gaps start ranges, start ≤ gap.1 := by
  induction ranges generalizing start with
  | nil =>
    unfold RangeTable.gaps
    split
    · next inside => exact ⟨.singleton inside, by simp⟩
    · exact ⟨ordered, List.forall_mem_nil _⟩
  | cons range ranges ih =>
    have filled := ordered.filled
    have least := above range List.mem_cons_self
    obtain ⟨ordered', above'⟩ :=
      ih ordered.tail fun next mem => Nat.le_of_lt (ordered.below next mem)
    unfold RangeTable.gaps
    split
    · refine ⟨.cons (by omega) (fun next mem => ?_) ordered',
        List.forall_mem_cons.mpr ⟨Nat.le_refl _, fun next mem => ?_⟩⟩ <;>
      · have behind := above' next mem
        omega
    · refine ⟨ordered', fun next mem => ?_⟩
      have behind := above' next mem
      omega

structure CharSet where
  ranges : List (Nat × Nat)
  ordered : InOrder ranges

namespace CharSet

def has (s : CharSet) (n : Nat) : Bool := s.ranges.any fun range => range.1 ≤ n && n ≤ range.2

def contains (s : CharSet) (c : Char) : Bool := s.has c.toNat

def empty : CharSet := ⟨[], List.forall_mem_nil _, .nil⟩

/-- Adds a range; one whose last code point comes before its first one is empty. -/
def insert (range : Nat × Nat) (s : CharSet) : CharSet :=
  if filled : range.1 ≤ range.2 then
    ⟨addRange range.1 range.2 s.ranges, s.ordered.addRange filled⟩
  else s

def ofRanges (ranges : List (Nat × Nat)) : CharSet := ranges.foldr insert empty

def single (c : Char) : CharSet := ofRanges [(c.toNat, c.toNat)]

def range (first last : Char) : CharSet := ofRanges [(first.toNat, last.toNat)]

def ofTable (table : RangeTable) : CharSet := ofRanges table.toList

def union (s t : CharSet) : CharSet := t.ranges.foldr insert s

def compl (s : CharSet) : CharSet :=
  ⟨RangeTable.gaps 0 s.ranges, (s.ordered.gaps fun _ _ => Nat.zero_le _).1⟩

def inter (s t : CharSet) : CharSet := (s.compl.union t.compl).compl

def diff (s t : CharSet) : CharSet := (s.compl.union t).compl

def symmDiff (s t : CharSet) : CharSet := (s.diff t).union (t.diff s)

/-- The characters that are like `c` up to case. -/
def alikeTo (c : Char) : CharSet := ofRanges ((caseVariants c).map fun d => (d.toNat, d.toNat))

/-- Adds what members are folded to, and then what is folded to members. -/
def closeUnder (pairs : List (Nat × Nat)) (s : CharSet) : CharSet :=
  let folded := pairs.foldr (fun pair t => if s.has pair.1 then t.insert (pair.2, pair.2) else t) s
  pairs.foldr (fun pair t => if folded.has pair.2 then t.insert (pair.1, pair.1) else t) folded

/-- The characters that are like a member up to case. -/
def foldCase (s : CharSet) : CharSet := s.closeUnder foldPairs

/-- The characters that are a member or an ASCII letter whose other case is one. -/
def foldAsciiCase (s : CharSet) : CharSet := s.closeUnder asciiRow.pairs

end CharSet

end Pattern
end LogView
