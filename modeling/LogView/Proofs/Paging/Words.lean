import LogView.Proofs.Paging.Partition
import Mathlib.Algebra.GroupWithZero.Nat

/-!
# Pages in words

The places of a page are worked out in words of 64 bits.  No value on the way is too large for one,
however large the page size is: where it is larger than the list there is only the first page, which
begins at nothing, and else the list bounds all there is to work out.
-/

namespace LogView

/-- A number is a 64-bit integer. -/
def FitsInt64 (n : Int) : Prop := minInt64 ≤ n ∧ n ≤ maxInt64

/-- The word that holds a value, if one does. -/
def word? (n : Int) : Option Nat := if 0 ≤ n ∧ n.toNat < 2 ^ 64 then some n.toNat else none

theorem word?_eq {n : Int} {value : Nat} (same : n = value) (small : value < 2 ^ 64) :
    word? n = some value := by
  subst same
  rw [word?, Int.toNat_natCast, if_pos ⟨Int.natCast_nonneg value, small⟩]

/-- The size of a page is a word. -/
def PagePolicy.SizeIsWord : PagePolicy → Prop
  | .single => True
  | .fixed size => size < 2 ^ 64

/-- The page of kept lines that is nearest to the one asked for, as far as words hold its places
and its stretch lies within the lines. -/
def paginateInWords? (kept : List LogLine) (policy : PagePolicy) (requested : Int) :
    Option Page := do
  let size := policy.sizeFor kept.length
  let total := policy.totalPages kept.length
  let number := clampPage requested total
  let before ← word? (number - 1)
  let skipped ← word? (before * size)
  let start := min skipped kept.length
  let behind ← word? (start + size)
  let stop := min behind kept.length
  if start ≤ stop ∧ stop ≤ kept.length then
    some ⟨number, size, total, start, kept.extract start stop⟩
  else none

/-- The place of a line of the page among all kept lines, as far as words hold it. -/
def Page.displayIndexInWords? (page : Page) (index : Nat) : Option Nat := do
  let place ← word? (page.start + index)
  word? (place + 1)

/-- What is worked out for a page of a list stays in range. -/
structure Page.WithinWords (page : Page) (length : Nat) : Prop where
  counted : 1 ≤ page.number
  skipped : (page.number - 1) * page.size < 2 ^ 64
  behind : page.start + page.size < 2 ^ 64
  ordered : page.start ≤ min (page.start + page.size) length
  inside : min (page.start + page.size) length ≤ length
  shown : ∀ index < page.lines.length, page.displayIndex index ≤ length
  next : FitsInt64 (page.number + 1)

namespace PagePolicy

theorem totalPages_le (policy : PagePolicy) (length : Nat) :
    policy.totalPages length ≤ max 1 length := by
  apply (policy.isLeast_totalPages length).2
  refine ⟨Nat.le_max_left 1 length, Nat.le_trans (Nat.le_max_right 1 length) ?_⟩
  exact Nat.le_mul_of_pos_right _ (policy.one_le_sizeFor length)

theorem sizeFor_lt {policy : PagePolicy} (word : policy.SizeIsWord) {length : Nat}
    (short : length < 2 ^ 62) : policy.sizeFor length < 2 ^ 64 := by
  cases policy with
  | single =>
    change max length 1 < 2 ^ 64
    omega
  | fixed size =>
    change size < 2 ^ 64 at word
    change max size 1 < 2 ^ 64
    omega

theorem sizeFor_le {policy : PagePolicy} {length number : Nat}
    (last : number ≤ policy.totalPages length) (second : 2 ≤ number) :
    policy.sizeFor length ≤ length := by
  have before : 1 ≤ number - 1 := by omega
  exact Nat.le_trans (Nat.le_mul_of_pos_left _ before) (policy.pred_mul_le last)

end PagePolicy

section Words

variable {kept : List LogLine} {policy : PagePolicy}

theorem start_add_size_lt (short : kept.length < 2 ^ 62) (word : policy.SizeIsWord)
    (requested : Int) :
    (paginate kept policy requested).start + (paginate kept policy requested).size < 2 ^ 64 := by
  change min ((clampPage requested (policy.totalPages kept.length) - 1) *
    policy.sizeFor kept.length) kept.length + policy.sizeFor kept.length < 2 ^ 64
  have last := clampPage_le requested (policy.one_le_totalPages kept.length)
  have size := PagePolicy.sizeFor_lt word short
  generalize clampPage requested (policy.totalPages kept.length) = number at last ⊢
  rcases Nat.lt_or_ge number 2 with first | second
  · have first : number - 1 = 0 := by omega
    rw [first, Nat.zero_mul, Nat.zero_min, Nat.zero_add]
    exact size
  · have bounded := PagePolicy.sizeFor_le last second
    omega

theorem displayIndex_le (requested : Int) {index : Nat}
    (shown : index < (paginate kept policy requested).lines.length) :
    (paginate kept policy requested).displayIndex index ≤ kept.length := by
  have lines : (paginate kept policy requested).lines.length =
      min (policy.sizeFor kept.length)
        (kept.length - (paginate kept policy requested).start) := by
    change ((kept.drop _).take _).length = _
    rw [List.length_take, List.length_drop]
    rfl
  unfold Page.displayIndex
  omega

theorem withinWords_paginate (short : kept.length < 2 ^ 62) (word : policy.SizeIsWord)
    (requested : Int) : (paginate kept policy requested).WithinWords kept.length := by
  have last := clampPage_le requested (policy.one_le_totalPages kept.length)
  have pages := policy.totalPages_le kept.length
  have skipped : ((paginate kept policy requested).number - 1) *
      (paginate kept policy requested).size ≤ kept.length := policy.pred_mul_le last
  have start : (paginate kept policy requested).start ≤ kept.length := Nat.min_le_right _ _
  have number : (paginate kept policy requested).number ≤ max 1 kept.length :=
    Nat.le_trans last pages
  constructor
  case counted => exact one_le_clampPage requested _
  case skipped => omega
  case behind => exact start_add_size_lt short word requested
  case ordered => omega
  case inside => exact Nat.min_le_right _ _
  case shown => exact fun index shown => displayIndex_le requested shown
  case next =>
    unfold FitsInt64 minInt64 maxInt64
    omega

theorem paginateInWords?_eq (short : kept.length < 2 ^ 62) (word : policy.SizeIsWord)
    (requested : Int) :
    paginateInWords? kept policy requested = some (paginate kept policy requested) := by
  obtain ⟨counted, skipped, behind, ordered, inside, -, next⟩ :=
    withinWords_paginate short word requested
  unfold FitsInt64 maxInt64 at next
  unfold paginate at counted skipped behind ordered inside next
  unfold paginateInWords? paginate
  dsimp only at counted skipped behind ordered inside next ⊢
  generalize clampPage requested (policy.totalPages kept.length) = number at *
  generalize policy.sizeFor kept.length = size at *
  have before : word? ((number : Int) - 1) = some (number - 1) := word?_eq (by omega) (by omega)
  have product : word? (((number - 1 : Nat) : Int) * size) = some ((number - 1) * size) :=
    word?_eq (Int.natCast_mul _ _).symm skipped
  have sum : word? ((min ((number - 1) * size) kept.length : Nat) + size) =
      some (min ((number - 1) * size) kept.length + size) :=
    word?_eq (Int.natCast_add _ _).symm behind
  simp only [before, product, sum, Option.bind_eq_bind, Option.bind_some]
  rw [if_pos ⟨ordered, inside⟩, extract_stretch]

theorem displayIndexInWords?_eq {page : Page} {index length : Nat} (short : length < 2 ^ 62)
    (shown : page.displayIndex index ≤ length) :
    page.displayIndexInWords? index = some (page.displayIndex index) := by
  unfold Page.displayIndex at shown ⊢
  have place : word? ((page.start : Int) + index) = some (page.start + index) :=
    word?_eq (by omega) (by omega)
  unfold Page.displayIndexInWords?
  simp only [place, Option.bind_eq_bind, Option.bind_some]
  exact word?_eq (by omega) (by omega)

end Words

/--
Whatever page is asked for and however large pages are, nothing that is worked out for a page of a
list is too small or too large for a word, its stretch lies within the list, and so do the places of
its lines; worked out in words the page is the same, and there is room for the number of the next
one.
-/
theorem page_within_words {kept : List LogLine} (short : kept.length < 2 ^ 62)
    {policy : PagePolicy} (word : policy.SizeIsWord) (requested : Int) :
    (paginate kept policy requested).WithinWords kept.length ∧
      paginateInWords? kept policy requested = some (paginate kept policy requested) ∧
      ∀ index < (paginate kept policy requested).lines.length,
        (paginate kept policy requested).displayIndexInWords? index =
          some ((paginate kept policy requested).displayIndex index) :=
  ⟨withinWords_paginate short word requested, paginateInWords?_eq short word requested,
    fun _ shown => displayIndexInWords?_eq short (displayIndex_le requested shown)⟩

/-- A page of the largest size that a word holds, the last one that a number asks for. -/
theorem page_of_largest_size :
    (logLines "a\nb\nc").length < 2 ^ 62 ∧ PagePolicy.SizeIsWord (.fixed (2 ^ 64 - 1)) ∧
      (paginate (logLines "a\nb\nc") (.fixed (2 ^ 64 - 1)) maxInt64).WithinWords 3 ∧
      paginateInWords? (logLines "a\nb\nc") (.fixed (2 ^ 64 - 1)) maxInt64 =
        some ⟨1, 2 ^ 64 - 1, 1, 0, logLines "a\nb\nc"⟩ := by
  have length : (logLines "a\nb\nc").length = 3 := by decide +kernel
  have short : (logLines "a\nb\nc").length < 2 ^ 62 := by
    rw [length]
    decide
  have word : PagePolicy.SizeIsWord (.fixed (2 ^ 64 - 1)) := by
    change 2 ^ 64 - 1 < 2 ^ 64
    decide
  obtain ⟨within, same, -⟩ := page_within_words short word maxInt64
  rw [length] at within
  refine ⟨short, word, within, same.trans ?_⟩
  decide +kernel

end LogView
