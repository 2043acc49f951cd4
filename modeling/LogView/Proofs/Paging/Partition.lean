import LogView.Proofs.Paging
import Mathlib.Data.List.Basic
import Mathlib.Order.Bounds.Basic

/-!
# Pages as a partition

The kept lines are cut into as few pages as hold them.  All pages but the last one are full, the
last one is empty only where nothing was kept, and side by side they are the kept lines.  A page
that is asked for is the stretch of lines at the nearest number that there is.
-/

namespace LogView

/-- The numbers of pages that hold a list; there is one page even if the list is empty. -/
def PagePolicy.enough (policy : PagePolicy) (length : Nat) : Set Nat :=
  {pages | 1 ≤ pages ∧ length ≤ pages * policy.sizeFor length}

/-- The number from the first to the last page that lies nearest to the one asked for. -/
structure NearestPage (requested : Int) (total number : Nat) : Prop where
  first : 1 ≤ number
  last : number ≤ total
  nearest : ∀ other : Nat, 1 ≤ other → other ≤ total →
    (requested - number).natAbs ≤ (requested - other).natAbs

/-- The page with a number: the lines behind those of the pages before it, up to its size. -/
def Page.numbered (kept : List LogLine) (policy : PagePolicy) (number : Nat) : Page :=
  let size := policy.sizeFor kept.length
  let start := (number - 1) * size
  ⟨number, size, policy.totalPages kept.length, start,
    kept.extract start (min (start + size) kept.length)⟩

theorem nearestPage_clampPage (requested : Int) {total : Nat} (pages : 1 ≤ total) :
    NearestPage requested total (clampPage requested total) where
  first := one_le_clampPage requested total
  last := clampPage_le requested pages
  nearest := by
    intro other first last
    unfold clampPage
    omega

namespace PagePolicy

theorem totalPages_zero (policy : PagePolicy) : policy.totalPages 0 = 1 := by
  cases policy with
  | single => rfl
  | fixed size =>
    have zero : (0 + max size 1 - 1) / max size 1 = 0 := Nat.div_eq_of_lt (by omega)
    rw [totalPages, zero]
    rfl

theorem isLeast_totalPages (policy : PagePolicy) (length : Nat) :
    IsLeast (policy.enough length) (policy.totalPages length) := by
  refine ⟨⟨policy.one_le_totalPages length, policy.length_le length⟩, ?_⟩
  rintro pages ⟨first, holds⟩
  rcases Nat.eq_zero_or_pos length with rfl | some
  · rwa [totalPages_zero]
  · by_contra fewer
    have before : pages ≤ policy.totalPages length - 1 := by omega
    have short := Nat.mul_le_mul_right (policy.sizeFor length) before
    have unfilled := policy.pred_totalPages_mul_lt some
    omega

theorem pred_mul_le (policy : PagePolicy) {length number : Nat}
    (last : number ≤ policy.totalPages length) :
    (number - 1) * policy.sizeFor length ≤ length := by
  rcases Nat.eq_zero_or_pos length with rfl | some
  · rw [totalPages_zero] at last
    have first : number - 1 = 0 := by omega
    rw [first, Nat.zero_mul]
  · have before := Nat.mul_le_mul_right (policy.sizeFor length) (Nat.sub_le_sub_right last 1)
    exact Nat.le_of_lt (Nat.lt_of_le_of_lt before (policy.pred_totalPages_mul_lt some))

end PagePolicy

section Pages

variable (kept : List LogLine) (policy : PagePolicy)

/-- A stretch that is cut off where the list ends is what the list has of it. -/
theorem extract_stretch (start size : Nat) :
    kept.extract start (min (start + size) kept.length) = (kept.drop start).take size := by
  rw [List.extract_eq_take_drop, List.take_eq_take_iff, List.length_drop]
  omega

theorem lines_numbered (number : Nat) :
    (Page.numbered kept policy number).lines =
      (kept.drop ((number - 1) * policy.sizeFor kept.length)).take
        (policy.sizeFor kept.length) :=
  extract_stretch kept _ _

/-- Whatever is asked for, the page is the one with the number that is nearest. -/
theorem paginate_eq_numbered (requested : Int) :
    paginate kept policy requested =
      .numbered kept policy (clampPage requested (policy.totalPages kept.length)) := by
  have last := clampPage_le requested (policy.one_le_totalPages kept.length)
  have start := Nat.min_eq_left (policy.pred_mul_le last)
  have lines := lines_numbered kept policy (clampPage requested (policy.totalPages kept.length))
  unfold paginate
  dsimp only
  rw [start, ← lines]
  rfl

theorem paginate_of_le {number : Nat} (first : 1 ≤ number)
    (last : number ≤ policy.totalPages kept.length) :
    paginate kept policy number = .numbered kept policy number := by
  rw [paginate_eq_numbered, clampPage_of_le first last]

theorem length_lines_numbered (number : Nat) :
    (Page.numbered kept policy number).lines.length =
      min (policy.sizeFor kept.length)
        (kept.length - (number - 1) * policy.sizeFor kept.length) := by
  rw [lines_numbered, List.length_take, List.length_drop]

theorem length_lines_of_lt {number : Nat} (first : 1 ≤ number)
    (before : number < policy.totalPages kept.length) :
    (paginate kept policy number).lines.length = policy.sizeFor kept.length := by
  have filled : (number + 1 - 1) * policy.sizeFor kept.length ≤ kept.length :=
    policy.pred_mul_le before
  have next : number + 1 - 1 = number - 1 + 1 := by omega
  rw [next, Nat.add_one_mul] at filled
  rw [paginate_of_le kept policy first (Nat.le_of_lt before), length_lines_numbered]
  omega

theorem flatMap_paginate :
    ((List.range' 1 (policy.totalPages kept.length)).flatMap fun number : Nat =>
      (paginate kept policy number).lines) = kept := by
  calc
    _ = (List.range (policy.totalPages kept.length)).flatMap fun k =>
          (paginate kept policy (1 + k : Nat)).lines := by
        rw [List.range'_eq_map_range, List.flatMap_map]
    _ = (List.range (policy.totalPages kept.length)).flatMap fun k =>
          (kept.drop (k * policy.sizeFor kept.length)).take (policy.sizeFor kept.length) := by
        apply List.flatMap_congr
        intro k mem
        have last : 1 + k ≤ policy.totalPages kept.length := by
          have inside := List.mem_range.mp mem
          omega
        rw [paginate_of_le kept policy (Nat.le_add_right 1 k) last, lines_numbered,
          Nat.add_sub_cancel_left]
    _ = kept := by
        rw [flatMap_stretches, List.take_of_length_le (policy.length_le kept.length)]

end Pages

/--
There are as few pages as hold the kept lines, and one at least; side by side they are the kept
lines.  Every page but the last one is full, and the last one is empty only if nothing was kept.
Whatever is asked for, the page is the one with the nearest number.
-/
theorem pages_partition (kept : List LogLine) (policy : PagePolicy) :
    IsLeast (policy.enough kept.length) (policy.totalPages kept.length) ∧
      ((List.range' 1 (policy.totalPages kept.length)).flatMap fun number : Nat =>
        (paginate kept policy number).lines) = kept ∧
      (∀ number : Nat, 1 ≤ number → number < policy.totalPages kept.length →
        (paginate kept policy number).lines.length = policy.sizeFor kept.length) ∧
      (paginate kept policy (policy.totalPages kept.length)).lines.length ≤
        policy.sizeFor kept.length ∧
      (kept ≠ [] → 1 ≤ (paginate kept policy (policy.totalPages kept.length)).lines.length) ∧
      ∀ requested : Int, ∃ number,
        NearestPage requested (policy.totalPages kept.length) number ∧
          paginate kept policy requested = .numbered kept policy number := by
  refine ⟨policy.isLeast_totalPages kept.length, flatMap_paginate kept policy, ?_, ?_, ?_, ?_⟩
  · intro number first before
    exact length_lines_of_lt kept policy first before
  · rw [paginate_eq_numbered, length_lines_numbered]
    exact Nat.min_le_left _ _
  · intro nonempty
    rw [Nat.one_le_iff_ne_zero, Ne, List.length_eq_zero_iff, paginate_lines_eq_nil]
    exact nonempty
  · intro requested
    exact ⟨clampPage requested (policy.totalPages kept.length),
      nearestPage_clampPage requested (policy.one_le_totalPages kept.length),
      paginate_eq_numbered kept policy requested⟩

/--
Five lines on three pages: the second one is full, the last one is not empty, and a request far
beyond it shows the page that is nearest.
-/
theorem pages_of_five :
    (paginate (logLines "a\nb\nc\nd\ne") (.fixed 2) 2).lines.length = 2 ∧
      1 ≤ (paginate (logLines "a\nb\nc\nd\ne") (.fixed 2) 3).lines.length ∧
      ∃ number, NearestPage 9223372036854775807 3 number ∧
        paginate (logLines "a\nb\nc\nd\ne") (.fixed 2) 9223372036854775807 =
          .numbered (logLines "a\nb\nc\nd\ne") (.fixed 2) number := by
  obtain ⟨-, -, full, -, last, nearest⟩ := pages_partition (logLines "a\nb\nc\nd\ne") (.fixed 2)
  have three : PagePolicy.totalPages (.fixed 2) (logLines "a\nb\nc\nd\ne").length = 3 := by
    decide +kernel
  rw [three] at full last nearest
  exact ⟨full 2 (by decide) (by decide), last (by decide +kernel), nearest 9223372036854775807⟩

end LogView
