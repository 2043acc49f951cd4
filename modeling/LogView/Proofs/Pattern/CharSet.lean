import LogView.Pattern.CharSet
import LogView.Proofs.Unicode.Folding
import Mathlib.Tactic.SplitIfs

/-!
# What sets of characters hold

Ranges of code points stand for the code points that lie in one of them.  Adding a range adds just
its code points, and the gaps between ranges hold all others, so the operations on sets do what
their names say.  Closing a set under case folding adds just what is like a member up to case.
-/

namespace LogView
namespace Pattern

/-- Whether a code point lies in one of several ranges. -/
def LiesIn (ranges : List (Nat × Nat)) (n : Nat) : Prop :=
  ∃ range ∈ ranges, range.1 ≤ n ∧ n ≤ range.2

section LiesIn

variable {ranges : List (Nat × Nat)} {n : Nat}

theorem liesIn_cons {range : Nat × Nat} :
    LiesIn (range :: ranges) n ↔ (range.1 ≤ n ∧ n ≤ range.2) ∨ LiesIn ranges n := by
  simp [LiesIn]

theorem liesIn_addRange {low high : Nat} (filled : low ≤ high) (ordered : InOrder ranges) :
    LiesIn (addRange low high ranges) n ↔ (low ≤ n ∧ n ≤ high) ∨ LiesIn ranges n := by
  induction ranges generalizing low high with
  | nil => exact liesIn_cons
  | cons range ranges ih =>
    unfold addRange
    split_ifs with before behind
    · exact liesIn_cons
    · rw [liesIn_cons, ih filled ordered.tail, liesIn_cons]
      exact or_left_comm
    · have filled' := ordered.filled
      rw [ih (by omega) ordered.tail, liesIn_cons, ← or_assoc]
      exact or_congr_left (by omega)

theorem liesIn_gaps {start : Nat} (ordered : InOrder ranges)
    (above : ∀ range ∈ ranges, start ≤ range.1) (point : n ≤ 0x10FFFF) :
    LiesIn (Unicode.RangeTable.gaps start ranges) n ↔ start ≤ n ∧ ¬ LiesIn ranges n := by
  induction ranges generalizing start with
  | nil =>
    unfold Unicode.RangeTable.gaps
    split_ifs <;> simp [LiesIn] <;> omega
  | cons range ranges ih =>
    have filled := ordered.filled
    have least := above range List.mem_cons_self
    have rest := ih ordered.tail fun next mem => Nat.le_of_lt (ordered.below next mem)
    have later : LiesIn ranges n → range.2 < n := by
      rintro ⟨next, mem, first, -⟩
      have far := ordered.below next mem
      omega
    unfold Unicode.RangeTable.gaps
    rw [liesIn_cons]
    split_ifs with gap
    · rw [liesIn_cons, rest]
      by_cases inside : LiesIn ranges n
      · have far := later inside
        simp only [inside, not_true_eq_false, and_false, or_true, or_false, iff_false]
        omega
      · simp only [inside, not_false_eq_true, and_true, or_false]
        omega
    · rw [rest]
      by_cases inside : LiesIn ranges n
      · simp [inside]
      · simp only [inside, not_false_eq_true, and_true, or_false]
        omega

end LiesIn

namespace CharSet

open Unicode

variable {s t : CharSet} {n : Nat}

theorem has_iff : s.has n = true ↔ LiesIn s.ranges n := by
  simp [has, LiesIn]

theorem has_insert {range : Nat × Nat} :
    (s.insert range).has n = true ↔ (range.1 ≤ n ∧ n ≤ range.2) ∨ s.has n = true := by
  unfold insert
  split_ifs with filled
  · rw [has_iff, has_iff]
    exact liesIn_addRange filled s.ordered
  · exact ⟨.inr, fun known => known.resolve_left (by omega)⟩

theorem has_foldr_insert {ranges : List (Nat × Nat)} :
    (ranges.foldr insert s).has n = true ↔ LiesIn ranges n ∨ s.has n = true := by
  induction ranges with
  | nil => simp [LiesIn]
  | cons range ranges ih => rw [List.foldr_cons, has_insert, ih, liesIn_cons, or_assoc]

theorem has_ofRanges {ranges : List (Nat × Nat)} :
    (ofRanges ranges).has n = true ↔ LiesIn ranges n := by
  refine has_foldr_insert.trans (or_iff_left ?_)
  simp [has, empty]

theorem has_union : (s.union t).has n = true ↔ s.has n = true ∨ t.has n = true := by
  rw [union, has_foldr_insert, has_iff (s := t), or_comm]

theorem has_compl (point : n ≤ 0x10FFFF) : s.compl.has n = true ↔ ¬ s.has n = true := by
  rw [has_iff, has_iff]
  exact (liesIn_gaps s.ordered (fun _ _ => Nat.zero_le _) point).trans
    (and_iff_right (Nat.zero_le n))

variable {c d : Char}

theorem toNat_le (c : Char) : c.toNat ≤ 0x10FFFF := by
  have valid := c.valid
  rw [UInt32.isValidChar, Nat.isValidChar] at valid
  change c.val.toNat ≤ 0x10FFFF
  omega

@[simp] theorem contains_single : (single c).contains d = true ↔ d = c := by
  rw [contains, single, has_ofRanges, ← Char.toNat_inj]
  simp only [LiesIn, List.mem_singleton, exists_eq_left]
  omega

@[simp] theorem contains_union :
    (s.union t).contains c = true ↔ s.contains c = true ∨ t.contains c = true :=
  has_union

@[simp] theorem contains_compl : s.compl.contains c = true ↔ ¬ s.contains c = true :=
  has_compl (toNat_le c)

@[simp] theorem contains_inter :
    (s.inter t).contains c = true ↔ s.contains c = true ∧ t.contains c = true := by
  simp [inter]

@[simp] theorem contains_diff :
    (s.diff t).contains c = true ↔ s.contains c = true ∧ ¬ t.contains c = true := by
  simp [diff]

@[simp] theorem contains_symmDiff : (s.symmDiff t).contains c = true ↔
    (s.contains c = true ∧ ¬ t.contains c = true) ∨
      (t.contains c = true ∧ ¬ s.contains c = true) := by
  simp [symmDiff]

theorem contains_alikeTo : (alikeTo c).contains d = true ↔ SameUpToCase c d := by
  rw [contains, alikeTo, has_ofRanges, ← mem_caseVariants]
  constructor
  · rintro ⟨range, mem, low, high⟩
    obtain ⟨e, variant, rfl⟩ := List.mem_map.mp mem
    cases Char.toNat_inj.mp (Nat.le_antisymm high low)
    exact variant
  · intro mem
    exact ⟨(d.toNat, d.toNat), List.mem_map_of_mem mem, Nat.le_refl _, Nat.le_refl _⟩

theorem has_foldr_pair {pairs : List (Nat × Nat)} {asks : Nat × Nat → Bool}
    {point : Nat × Nat → Nat} :
    (pairs.foldr (fun pair t => if asks pair then t.insert (point pair, point pair) else t) s).has
        n = true ↔ s.has n = true ∨ ∃ pair ∈ pairs, asks pair = true ∧ point pair = n := by
  induction pairs with
  | nil => simp
  | cons pair pairs ih =>
    simp only [List.foldr_cons, List.mem_cons, exists_eq_or_imp]
    split_ifs with asked
    · rw [has_insert, ih, or_left_comm]
      refine or_congr_right (or_congr_left ?_)
      simp only [asked, true_and]
      omega
    · simp [ih, asked]

/-- A set closed under case holds what is like one of its members up to case. -/
theorem has_foldCase : s.foldCase.has n = true ↔
    ∃ m, s.has m = true ∧ simpleFolding n = simpleFolding m := by
  have folded {m k : Nat} (listed : (m, k) ∈ caseFolding) : simpleFolding m = k :=
    simpleFolding_eq_iff.mpr (.inl listed)
  have stays {m k : Nat} (listed : (m, k) ∈ caseFolding) : simpleFolding k = k :=
    simpleFolding_eq_iff.mpr (.inr ⟨rfl, not_listed_of_mem listed⟩)
  unfold foldCase closeUnder
  dsimp only
  rw [← caseFolding_eq, has_foldr_pair]
  simp only [has_foldr_pair]
  constructor
  · rintro ((here | ⟨⟨m, k⟩, listed, here, rfl⟩) | ⟨⟨m, k⟩, listed, here, rfl⟩)
    · exact ⟨n, here, rfl⟩
    · exact ⟨m, here, (stays listed).trans (folded listed).symm⟩
    · rcases here with here | ⟨⟨l, _⟩, listed', here, rfl⟩
      · exact ⟨k, here, (folded listed).trans (stays listed).symm⟩
      · exact ⟨l, here, (folded listed).trans (folded listed').symm⟩
  · rintro ⟨m, here, same⟩
    have target : s.has (simpleFolding m) = true ∨
        ∃ pair ∈ caseFolding, s.has pair.1 = true ∧ pair.2 = simpleFolding m := by
      rcases simpleFolding_eq_iff.mp (Eq.refl (simpleFolding m)) with listed | ⟨unchanged, -⟩
      · exact .inr ⟨_, listed, here, rfl⟩
      · exact .inl (unchanged ▸ here)
    rw [← same] at target
    rcases simpleFolding_eq_iff.mp (Eq.refl (simpleFolding n)) with listed | ⟨unchanged, -⟩
    · exact .inr ⟨_, listed, target, rfl⟩
    · rw [← unchanged] at target
      exact .inl target

end CharSet
end Pattern
end LogView
