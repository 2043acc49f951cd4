import LogView.Paging.Basic

/-!
# The range of pages

There is always a first page, and the page that is shown is one of those there are.  Pages of one
size that lie side by side leave nothing out and show nothing twice, and there are as many of them
as it takes.
-/

namespace LogView

theorem one_le_clampPage (requested : Int) (total : Nat) : 1 ≤ clampPage requested total :=
  Nat.le_max_left 1 _

theorem clampPage_le {total : Nat} (requested : Int) (pages : 1 ≤ total) :
    clampPage requested total ≤ total := by
  unfold clampPage
  omega

theorem PagePolicy.one_le_totalPages (policy : PagePolicy) (length : Nat) :
    1 ≤ policy.totalPages length := by
  cases policy with
  | single => exact Nat.le_refl 1
  | fixed size => exact Nat.le_max_left 1 _

theorem clampPage_of_le {page total : Nat} (first : 1 ≤ page) (last : page ≤ total) :
    clampPage page total = page := by
  unfold clampPage
  omega

theorem PagePolicy.length_le (policy : PagePolicy) (length : Nat) :
    length ≤ policy.totalPages length * policy.sizeFor length := by
  cases policy with
  | single =>
    rw [totalPages, sizeFor, Nat.one_mul]
    exact Nat.le_max_left length 1
  | fixed size =>
    have positive : 0 < max size 1 := Nat.lt_of_lt_of_le Nat.one_pos (Nat.le_max_right size 1)
    have covered : length ≤ (length + max size 1 - 1) / max size 1 * max size 1 := by
      have rounded := Nat.lt_mul_div_succ (length + max size 1 - 1) positive
      rw [Nat.mul_add, Nat.mul_one, Nat.mul_comm] at rounded
      omega
    exact Nat.le_trans covered (Nat.mul_le_mul_right _ (Nat.le_max_right 1 _))

theorem PagePolicy.one_le_sizeFor (policy : PagePolicy) (length : Nat) :
    1 ≤ policy.sizeFor length := by
  cases policy with
  | single => exact Nat.le_max_right length 1
  | fixed size => exact Nat.le_max_right size 1

/-- No page is there in vain: the pages before the last one do not hold all lines. -/
theorem PagePolicy.pred_totalPages_mul_lt (policy : PagePolicy) {length : Nat}
    (positive : 0 < length) : (policy.totalPages length - 1) * policy.sizeFor length < length := by
  cases policy with
  | single => simpa [totalPages] using positive
  | fixed size =>
    unfold totalPages sizeFor
    dsimp only
    generalize max size 1 = stride
    have filled := Nat.div_mul_le_self (length + stride - 1) stride
    generalize (length + stride - 1) / stride = pages at filled
    cases pages with
    | zero => simpa using positive
    | succ pages =>
      have last : max 1 (pages + 1) - 1 = pages := by omega
      rw [Nat.add_one_mul] at filled
      rw [last]
      omega

theorem start_paginate_lt {kept : List LogLine} (positive : 0 < kept.length) (policy : PagePolicy)
    (requested : Int) : (paginate kept policy requested).start < kept.length := by
  have last := clampPage_le requested (policy.one_le_totalPages kept.length)
  have before : (clampPage requested (policy.totalPages kept.length) - 1) *
      policy.sizeFor kept.length < kept.length :=
    Nat.lt_of_le_of_lt (Nat.mul_le_mul_right _ (Nat.sub_le_sub_right last 1))
      (policy.pred_totalPages_mul_lt positive)
  exact Nat.lt_of_le_of_lt (Nat.min_le_left _ _) before

theorem paginate_lines_eq_nil {kept : List LogLine} {policy : PagePolicy} {requested : Int} :
    (paginate kept policy requested).lines = [] ↔ kept = [] := by
  cases kept with
  | nil => simp [paginate]
  | cons line rest =>
    have positive : 0 < (line :: rest).length := Nat.zero_lt_succ rest.length
    have start := start_paginate_lt positive policy requested
    have size := policy.one_le_sizeFor (line :: rest).length
    refine iff_of_false (fun blank => ?_) (List.cons_ne_nil line rest)
    have shown := congrArg List.length blank
    simp only [paginate, List.length_take, List.length_drop, List.length_nil] at shown start
    omega

/-- Stretches of one size, side by side, are the list as far as they reach. -/
theorem flatMap_stretches {α : Type} (list : List α) (size count : Nat) :
    ((List.range count).flatMap fun k => (list.drop (k * size)).take size) =
      list.take (count * size) := by
  induction count with
  | zero => simp
  | succ count ih =>
    rw [List.range_succ, List.flatMap_append, ih, Nat.add_one_mul, List.take_add]
    simp

theorem PagingSettings.policyFor_zero (settings : PagingSettings) :
    settings.policyFor 0 = .single := by
  simp [policyFor]

/-- The page of a session that has nothing to show. -/
def Page.vacant : Page := ⟨1, 1, 1, 0, []⟩

theorem paginate_nil_single (requested : Int) : paginate [] .single requested = .vacant := by
  have number : clampPage requested 1 = 1 := by
    unfold clampPage
    omega
  simp [paginate, PagePolicy.sizeFor, PagePolicy.totalPages, number, Page.vacant]

end LogView
