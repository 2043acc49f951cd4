import LogView.Text.Blank
import Mathlib.Data.List.TakeWhile

/-!
# Trimmed texts

Which characters are white space is written out, and so is what trimming leaves: the stretch of a
text between the white space at its ends, which neither begins nor ends with white space itself.
-/

namespace LogView
namespace Text

/-- The characters with the Unicode property `White_Space`, in their order. -/
def whiteSpace : List Char :=
  ['\t', '\n', '\x0b', '\x0c', '\r', ' ', '\u0085', '\u00a0', '\u1680', '\u2000', '\u2001',
    '\u2002', '\u2003', '\u2004', '\u2005', '\u2006', '\u2007', '\u2008', '\u2009', '\u200a',
    '\u2028', '\u2029', '\u202f', '\u205f', '\u3000']

theorem isBlank_iff {c : Char} : isBlank c = true ↔ c ∈ whiteSpace := by
  simp only [isBlank, whiteSpace, List.mem_cons, List.not_mem_nil, or_false, ← Char.toNat_inj,
    Bool.or_eq_true, Bool.and_eq_true, decide_eq_true_eq, beq_iff_eq]
  simp only [Char.reduceToNat]
  omega

theorem isBlank_eq_false_iff {c : Char} : isBlank c = false ↔ c ∉ whiteSpace := by
  rw [← isBlank_iff, Bool.not_eq_true]

/-- A text without the white space at its ends. -/
structure TrimsTo (text core : List Char) : Prop where
  within : ∃ before after, text = before ++ core ++ after ∧ ∀ c ∈ before ++ after, c ∈ whiteSpace
  first : ∀ c ∈ core.head?, c ∉ whiteSpace
  last : ∀ c ∈ core.getLast?, c ∉ whiteSpace

theorem dropWhile_isBlank_append {before core : List Char} (blank : ∀ c ∈ before, c ∈ whiteSpace)
    (first : ∀ c ∈ core.head?, c ∉ whiteSpace) :
    (before ++ core).dropWhile isBlank = core := by
  rw [List.dropWhile_append_of_pos fun c mem => isBlank_iff.mpr (blank c mem)]
  cases core with
  | nil => rfl
  | cons c core =>
    have shown : c ∉ whiteSpace := first c rfl
    rw [List.dropWhile_cons_of_neg (by rwa [isBlank_iff])]

theorem exists_dropWhile_isBlank (text : List Char) :
    ∃ before, text = before ++ text.dropWhile isBlank ∧ (∀ c ∈ before, c ∈ whiteSpace) ∧
      ∀ c ∈ (text.dropWhile isBlank).head?, c ∉ whiteSpace := by
  refine ⟨text.takeWhile isBlank, List.takeWhile_append_dropWhile.symm, ?_, ?_⟩
  · intro c mem
    exact isBlank_iff.mp (List.mem_takeWhile_imp mem)
  · intro c leads
    rw [← isBlank_eq_false_iff]
    have stops := List.head?_dropWhile_not isBlank text
    rw [Option.mem_def.mp leads] at stops
    simpa using stops

/-- Trimming leaves what stands between the white space at the ends. -/
theorem trimsTo_iff {text core : List Char} : TrimsTo text core ↔ trimChars text = core := by
  constructor
  · rintro ⟨⟨before, after, rfl, blank⟩, first, last⟩
    obtain ⟨blank, blank'⟩ := List.forall_mem_append.mp blank
    unfold trimChars
    cases core with
    | nil =>
      have nothing : (before ++ after).dropWhile isBlank = [] := by
        rw [List.dropWhile_eq_nil_iff]
        intro c mem
        exact isBlank_iff.mpr ((List.mem_append.mp mem).elim (blank c) (blank' c))
      rw [List.append_nil, nothing]
      rfl
    | cons c core =>
      have front : (before ++ (c :: core ++ after)).dropWhile isBlank = c :: core ++ after :=
        dropWhile_isBlank_append blank first
      have back : (after.reverse ++ (c :: core).reverse).dropWhile isBlank = (c :: core).reverse :=
        dropWhile_isBlank_append (by simpa using blank') (by rwa [List.head?_reverse])
      rw [List.append_assoc, front, List.reverse_append, back, List.reverse_reverse]
  · rintro rfl
    obtain ⟨before, whole, blank, first⟩ := exists_dropWhile_isBlank text
    obtain ⟨after, whole', blank', last⟩ :=
      exists_dropWhile_isBlank (text.dropWhile isBlank).reverse
    have shown : text.dropWhile isBlank = trimChars text ++ after.reverse := by
      rw [← List.reverse_inj, whole', trimChars]
      simp
    refine ⟨⟨before, after.reverse, ?_, ?_⟩, ?_, ?_⟩
    · rw [List.append_assoc, ← shown]
      exact whole
    · rw [List.forall_mem_append]
      exact ⟨blank, by simpa using blank'⟩
    · intro c leads
      apply first
      rw [shown, List.head?_append, Option.mem_def.mp leads]
      rfl
    · intro c closes
      apply last
      rw [← List.head?_reverse, trimChars, List.reverse_reverse] at closes
      exact closes

end Text
end LogView
