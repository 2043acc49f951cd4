import LogView.Proofs.Pattern.ByteRange
import Mathlib.Algebra.Order.BigOperators.Group.List
import Mathlib.Algebra.Order.Ring.Nat

/-!
# The size of a set of few characters

Ranges have no more forms than code points, and forms have no more beginnings and remainders than
bytes.  Case folding makes no more than four characters of one.  So there is a bound for what a
character takes in an automaton, whether case counts or not.
-/

namespace LogView
namespace Pattern

theorem foldr_add_eq_sum {α : Type} (f : α → Nat) (list : List α) :
    list.foldr (fun a n => f a + n) 0 = (list.map f).sum := by
  rw [List.sum_eq_foldr, List.foldr_map]

theorem length_eraseDups_le {α : Type} [BEq α] (list : List α) :
    list.eraseDups.length ≤ list.length := by
  cases list with
  | nil => exact Nat.le_refl _
  | cons a list =>
    have fewer := List.length_filter_le (fun b => !b == a) list
    have rest := length_eraseDups_le (list.filter fun b => !b == a)
    rw [List.eraseDups_cons, List.length_cons, List.length_cons]
    omega
termination_by list.length
decreasing_by exact Nat.lt_succ_of_le (List.length_filter_le _ list)

/-! ### Few forms -/

/-- How many code points lie in ranges that do not overlap. -/
def points (ranges : List (Nat × Nat)) : Nat :=
  (ranges.map fun range => range.2 + 1 - range.1).sum

theorem points_addRange_le {low high : Nat} {ranges : List (Nat × Nat)} (filled : low ≤ high)
    (ordered : InOrder ranges) :
    points (addRange low high ranges) ≤ high + 1 - low + points ranges := by
  induction ranges generalizing low high with
  | nil => exact Nat.le_refl _
  | cons range ranges ih =>
    have filled' := ordered.filled
    unfold addRange
    simp only [points, List.map_cons, List.sum_cons] at ih ⊢
    split_ifs with before behind
    · exact Nat.le_refl _
    · have rest := ih filled ordered.tail
      simp only [List.map_cons, List.sum_cons]
      omega
    · have rest := @ih (min low range.1) (max high range.2) (by omega) ordered.tail
      omega

theorem CharSet.points_ofRanges_le (ranges : List (Nat × Nat)) :
    points (CharSet.ofRanges ranges).ranges ≤ points ranges := by
  induction ranges with
  | nil => exact Nat.le_refl _
  | cons range ranges ih =>
    have step : points ((CharSet.ofRanges ranges).insert range).ranges ≤
        range.2 + 1 - range.1 + points (CharSet.ofRanges ranges).ranges := by
      unfold CharSet.insert
      split_ifs with filled
      · exact points_addRange_le filled (CharSet.ofRanges ranges).ordered
      · exact Nat.le_add_left _ _
    have total : points (range :: ranges) = range.2 + 1 - range.1 + points ranges := by
      rw [points, List.map_cons, List.sum_cons, points]
    rw [total]
    exact Nat.le_trans step (Nat.add_le_add_left ih _)

theorem CharSet.points_alikeTo_le (c : Char) : points (CharSet.alikeTo c).ranges ≤ 4 := by
  have singles (chars : List Char) :
      points (chars.map fun d => (d.toNat, d.toNat)) = chars.length := by
    induction chars with
    | nil => rfl
    | cons d chars ih =>
      simp only [points, List.map_cons, List.sum_cons, List.length_cons] at ih ⊢
      omega
  refine Nat.le_trans (CharSet.points_ofRanges_le _) ?_
  rw [singles]
  exact Unicode.length_caseVariants_le c

namespace Utf8Band

theorem length_between (following first last : Nat) :
    (between following first last).length = if first ≤ last then 1 else 0 := by
  unfold between
  split_ifs <;> rfl

theorem length_split_le {base following low high : Nat} (filled : low ≤ high) :
    (split base following low high).length ≤ high + 1 - low := by
  induction following generalizing base low high with
  | zero =>
    rw [split, List.length_singleton]
    omega
  | succ following ih =>
    have positive : 0 < Nat.pow 64 (following + 1) := Nat.pow_pos (by decide)
    rw [split]
    dsimp only
    generalize Nat.pow 64 (following + 1) = unit at positive
    have order := Nat.div_le_div_right (c := unit) filled
    have low_eq := Nat.div_add_mod low unit
    have high_eq := Nat.div_add_mod high unit
    have lower_lt := Nat.mod_lt low positive
    have upper_lt := Nat.mod_lt high positive
    generalize low / unit = a, low % unit = lower at *
    generalize high / unit = b, high % unit = upper at *
    obtain ⟨d, rfl⟩ := Nat.exists_eq_add_of_le order
    rw [Nat.mul_add] at high_eq
    have behind (digit : Nat) {first last : Nat} (filled : first ≤ last) :
        ((split 0x80 following first last).map ((base + digit, base + digit) :: ·)).length ≤
          last + 1 - first := by
      rw [List.length_map]
      exact ih filled
    by_cases same : d = 0
    · subst same
      have rest := behind a (show lower ≤ upper by omega)
      simp only [Nat.add_zero, if_true]
      omega
    · -- If there are forms between those of both ends, two first digits are all theirs.
      have wide : unit ≤ unit * d := Nat.le_mul_of_pos_right unit (by omega)
      have wider : 2 ≤ d → unit + unit ≤ unit * d := by
        intro more
        have := Nat.mul_le_mul_left unit more
        omega
      rw [if_neg (by omega), List.length_append, List.length_append, length_between]
      have front := behind a (show lower ≤ unit - 1 by omega)
      have back := behind (a + d) (Nat.zero_le upper)
      have empty : ([] : List ByteForm).length = 0 := rfl
      split_ifs <;> omega

/-- Bands that follow each other divide the code points of a range between them. -/
theorem length_forms_of_bands_le (range : Nat × Nat) {bands : List Utf8Band} (start : Nat)
    (behind : ∀ band ∈ bands, start ≤ band.first)
    (sorted : bands.Pairwise fun band next => band.last < next.first) :
    (bands.flatMap (forms range)).length ≤ range.2 + 1 - max range.1 start := by
  induction bands generalizing start with
  | nil => exact Nat.zero_le _
  | cons band bands ih =>
    obtain ⟨here, later⟩ := List.forall_mem_cons.mp behind
    obtain ⟨before, sorted⟩ := List.pairwise_cons.mp sorted
    have rest := ih (max start (band.last + 1))
      (fun next mem => Nat.max_le.mpr ⟨later next mem, before next mem⟩) sorted
    have own : (forms range band).length ≤
        min range.2 band.last + 1 - max range.1 band.first := by
      unfold forms
      dsimp only
      split_ifs with filled
      · exact length_split_le filled
      · exact Nat.zero_le _
    rw [List.flatMap_cons, List.length_append]
    omega

theorem length_forms_le (range : Nat × Nat) :
    (all.flatMap (forms range)).length ≤ range.2 + 1 - range.1 := by
  have bands := length_forms_of_bands_le range 0 (fun _ _ => Nat.zero_le _)
    (show all.Pairwise fun band next => band.last < next.first by decide)
  rwa [Nat.max_zero] at bands

end Utf8Band

theorem CharSet.length_forms_le (s : CharSet) : s.forms.length ≤ points s.ranges := by
  rw [CharSet.forms, List.length_flatMap]
  exact List.sum_le_sum fun range _ => Utf8Band.length_forms_le range

/-! ### Few states -/

variable {forms : List ByteForm}

/-- Each branch goes on with at least one form, and no form with more than one branch. -/
theorem sum_branches_le (forms : List ByteForm) (k : Nat) :
    ((branches forms).map fun branch => k * branch.2.length + 1).sum ≤ (k + 1) * forms.length := by
  fun_induction branches forms with
  | case1 => exact Nat.le_refl _
  | case2 forms ih => exact Nat.le_trans ih (Nat.mul_le_mul_left _ (Nat.le_succ _))
  | case3 first rest forms only ih =>
    simp only [List.map_cons, List.map_nil, List.sum_cons, List.sum_nil, List.length_cons,
      List.length_nil, Nat.mul_succ]
    omega
  | case4 rest forms next tails others known ih =>
    rw [known] at ih
    simp only [List.map_cons, List.sum_cons, List.length_cons, Nat.mul_succ] at ih ⊢
    omega
  | case5 first rest forms next tails others known differs ih =>
    rw [known] at ih
    simp only [List.map_cons, List.sum_cons, List.length_cons, List.length_nil,
      Nat.mul_succ] at ih ⊢
    omega

theorem length_branches_le (forms : List ByteForm) : (branches forms).length ≤ forms.length := by
  have counted := sum_branches_le forms 0
  simpa using counted

theorem length_branch_le (forms : List ByteForm) :
    ∀ branch ∈ branches forms, branch.2.length ≤ forms.length := by
  fun_induction branches forms with
  | case1 => exact List.forall_mem_nil _
  | case2 forms ih => exact fun branch mem => Nat.le_succ_of_le (ih branch mem)
  | case3 first rest forms only ih =>
    exact List.forall_mem_singleton.mpr (Nat.succ_le_succ (Nat.zero_le _))
  | case4 rest forms next tails others known ih =>
    rw [known] at ih
    obtain ⟨here, later⟩ := List.forall_mem_cons.mp ih
    exact List.forall_mem_cons.mpr
      ⟨Nat.succ_le_succ here, fun branch mem => Nat.le_succ_of_le (later branch mem)⟩
  | case5 first rest forms next tails others known differs ih =>
    rw [known] at ih
    exact List.forall_mem_cons.mpr
      ⟨Nat.succ_le_succ (Nat.zero_le _), fun branch mem => Nat.le_succ_of_le (ih branch mem)⟩

theorem beginnings_le (steps : Nat) (forms : List ByteForm) :
    beginnings steps forms ≤ steps * forms.length := by
  induction steps generalizing forms with
  | zero => exact Nat.zero_le _
  | succ steps ih =>
    rw [beginnings, foldr_add_eq_sum]
    refine Nat.le_trans (List.sum_le_sum fun branch _ => ?_) (sum_branches_le forms steps)
    exact Nat.succ_le_succ (ih branch.2)

theorem length_remainders_le (steps : Nat) (forms : List ByteForm) :
    (remainders steps forms).length ≤ steps * forms.length + 1 := by
  induction steps generalizing forms with
  | zero => exact Nat.le_add_left _ _
  | succ steps ih =>
    rw [remainders, List.length_cons, List.length_flatMap]
    refine Nat.succ_le_succ (Nat.le_trans (List.sum_le_sum fun branch _ => ?_)
      (sum_branches_le forms steps))
    exact ih branch.2

theorem length_le_of_mem_remainders {steps : Nat} {rest : List ByteForm}
    (mem : rest ∈ remainders steps forms) : rest.length ≤ forms.length := by
  induction steps generalizing forms with
  | zero =>
    cases List.mem_singleton.mp mem
    exact Nat.le_refl _
  | succ steps ih =>
    rcases List.mem_cons.mp mem with rfl | later
    · exact Nat.le_refl _
    · obtain ⟨branch, known, remains⟩ := List.mem_flatMap.mp later
      exact Nat.le_trans (ih remains) (length_branch_le forms branch known)

theorem formBytes_le (few : forms.length ≤ 4) (short : longest forms ≤ 4) (backward : Bool) :
    formBytes backward forms ≤ 1088 := by
  unfold formBytes
  split_ifs with only ascii
  · obtain ⟨own, rfl⟩ := List.length_eq_one_iff.mp (beq_iff_eq.mp (Bool.and_eq_true_iff.mp only).1)
    have length := length_le_longest (List.mem_singleton_self own)
    simp only [List.flatten_singleton, stateBytes]
    omega
  · simp only [stateBytes, readBytes]
    omega
  · have shared := beginnings_le 4 forms
    simp only [stateBytes, forkBytes]
    omega
  · have each : ∀ bytes ∈ (remainders 4 forms).eraseDups.map fun rest =>
        readBytes (branches rest).length, bytes ≤ 64 := by
      intro bytes mem
      obtain ⟨rest, remains, rfl⟩ := List.mem_map.mp mem
      have fewer := length_le_of_mem_remainders (List.mem_eraseDups.mp remains)
      have branching := length_branches_le rest
      simp only [readBytes, stateBytes]
      omega
    have total := List.sum_le_card_nsmul _ 64 each
    have distinct := length_eraseDups_le (remainders 4 forms)
    have counted := length_remainders_le 4 forms
    rw [List.length_map, Nat.nsmul_eq_mul] at total
    rw [foldr_add_eq_sum]
    omega

/-- A character takes at most 17 states of at most 64 bytes, in whatever case. -/
theorem CharSet.bytes_alikeTo_le (c : Char) (backward : Bool) :
    formBytes backward (CharSet.alikeTo c).forms ≤ 1088 :=
  formBytes_le (Nat.le_trans (CharSet.length_forms_le _) (CharSet.points_alikeTo_le c))
    (CharSet.longest_forms _) backward

end Pattern
end LogView
