import LogView.Token.Scan
import Mathlib.Tactic.SplitIfs

/-!
# Stretches that stand alone

A stretch of a text stands alone if no character of a word comes right before it or right behind
it.  It does so in any part of the text that holds it.  In the other direction, a stretch that
stands alone in a part, and begins and ends with characters of words, stands alone in the text if
the part is not cut off inside of a word.
-/

namespace LogView
namespace Token

/-- Whether a text begins with a character of a word. -/
abbrev BeginsWord (text : List Char) : Prop := endsWord text = false

/-- The characters of a text between two places. -/
def slice (text : List Char) (i j : Nat) : List Char := (text.drop i).take (j - i)

/-- Whether a character of a word comes before a place, `before` telling it of the first place. -/
def wordBefore (before : Bool) (text : List Char) : Nat → Bool
  | 0 => before
  | k + 1 => text[k]?.any isWordChar

/-- Whether no character of a word comes right before a stretch of a text or right behind it. -/
def StandsAlone (text : List Char) (first last : Nat) : Prop :=
  wordBefore false text first = false ∧ endsWord (text.drop last) = true

instance (text : List Char) (first last : Nat) : Decidable (StandsAlone text first last) :=
  inferInstanceAs (Decidable (_ ∧ _))

theorem endsWord_take {text : List Char} (ends : endsWord text = true) (n : Nat) :
    endsWord (text.take n) = true := by
  cases n with
  | zero => rfl
  | succ n =>
    cases text with
    | nil => rfl
    | cons c text => exact ends

theorem wordBefore_cons (before : Bool) (c : Char) (text : List Char) (k : Nat) :
    wordBefore before (c :: text) (k + 1) = wordBefore (isWordChar c) text k := by
  cases k with
  | zero => simp [wordBefore]
  | succ k => simp [wordBefore]

section Slice

variable {text : List Char} {i j first last : Nat}

theorem length_slice (inside : j ≤ text.length) : (slice text i j).length = j - i := by
  rw [slice, List.length_take, List.length_drop]
  omega

theorem getElem_mem_slice {k : Nat} (inside : k < text.length) (after : first ≤ k)
    (before : k < last) : text[k] ∈ slice text first last := by
  rw [List.mem_iff_getElem?]
  refine ⟨k - first, ?_⟩
  rw [slice, List.getElem?_take_of_lt (by omega), List.getElem?_drop, Nat.add_sub_cancel' after,
    List.getElem?_eq_getElem inside]

theorem slice_slice (inside : i + last ≤ j) :
    slice (slice text i j) first last = slice text (i + first) (i + last) := by
  unfold slice
  rw [List.drop_take, List.drop_drop, List.take_take]
  congr 1
  omega

theorem wordBefore_slice (k : Nat) (within : k ≤ j - i) (later : k ≠ 0) :
    wordBefore false (slice text i j) k = wordBefore false text (i + k) := by
  obtain ⟨k, rfl⟩ := Nat.exists_eq_succ_of_ne_zero later
  have shown : (slice text i j)[k]? = text[i + k]? := by
    rw [slice, List.getElem?_take_of_lt (by omega), List.getElem?_drop]
  exact congrArg (Option.any isWordChar) shown

theorem drop_slice (k : Nat) : (slice text i j).drop k = (text.drop (i + k)).take (j - i - k) := by
  rw [slice, List.drop_take, List.drop_drop]

theorem drop_eq_slice_append (ordered : first ≤ last) :
    text.drop first = slice text first last ++ text.drop last := by
  have rest : text.drop last = (text.drop first).drop (last - first) := by
    rw [List.drop_drop, Nat.add_sub_cancel' ordered]
  rw [rest, slice, List.take_append_drop]

theorem StandsAlone.within (alone : StandsAlone text (i + first) (i + last))
    (ordered : first ≤ last) (inside : i + last ≤ j) :
    StandsAlone (slice text i j) first last := by
  constructor
  · by_cases start : first = 0
    · rw [start]
      rfl
    · rw [wordBefore_slice first (by omega) start]
      exact alone.1
  · rw [drop_slice]
    exact endsWord_take alone.2 _

theorem beginsWord_drop (begins : BeginsWord (slice text first last)) :
    BeginsWord (text.drop first) := by
  cases ends : endsWord (text.drop first) with
  | false => exact ends
  | true =>
    have ends' := endsWord_take ends (last - first)
    rw [BeginsWord, slice, ends'] at begins
    cases begins

theorem wordBefore_of_ends (taken : first < last) (inside : last ≤ text.length)
    (ends : BeginsWord (slice text first last).reverse) : wordBefore false text last = true := by
  obtain ⟨k, rfl⟩ := Nat.exists_eq_succ_of_ne_zero (Nat.ne_zero_of_lt taken)
  have here : k < text.length := inside
  have split : slice text first (k + 1) = slice text first k ++ [text[k]] := by
    have width : k + 1 - first = k - first + 1 := by omega
    have place : first + (k - first) = k := by omega
    unfold slice
    rw [width, List.take_add_one, List.getElem?_drop, place, List.getElem?_eq_getElem here]
    rfl
  rw [Nat.succ_eq_add_one, split, List.reverse_append] at ends
  have word : isWordChar text[k] = true := by
    simpa [BeginsWord, endsWord] using ends
  simp [wordBefore, here, word]

/--
What stands alone in a part, and begins and ends with characters of words, stands alone in the
text, if no word is cut off at the ends of the part.
-/
theorem StandsAlone.of_slice (alone : StandsAlone (slice text i j) first last)
    (taken : first < last) (inside : i + last ≤ j) (inside' : j ≤ text.length)
    (edges : BeginsWord (slice text (i + first) (i + last)) ∧
      BeginsWord (slice text (i + first) (i + last)).reverse)
    (start : i = 0 ∨ endsWord (text.drop i) = true)
    (stop : j = text.length ∨ wordBefore false text j = false) :
    StandsAlone text (i + first) (i + last) := by
  have begins := beginsWord_drop edges.1
  have ends := wordBefore_of_ends (by omega) (by omega) edges.2
  constructor
  · by_cases edge : first = 0
    · rw [edge, Nat.add_zero] at begins ⊢
      rcases start with rfl | outside
      · rfl
      · rw [BeginsWord, outside] at begins
        cases begins
    · have before : wordBefore false (slice text i j) first = wordBefore false text (i + first) :=
        wordBefore_slice first (by omega) edge
      rw [← before]
      exact alone.1
  · by_cases edge : i + last = j
    · rw [edge] at ends ⊢
      rcases stop with rfl | outside
      · rw [List.drop_length]
        rfl
      · rw [outside] at ends
        cases ends
    · have behind := alone.2
      rw [drop_slice] at behind
      cases rest : text.drop (i + last) with
      | nil => rfl
      | cons c rest =>
        obtain ⟨n, more⟩ : ∃ n, j - i - last = n + 1 := ⟨j - i - last - 1, by omega⟩
        rw [rest, more] at behind
        exact behind

end Slice

end Token
end LogView
