import LogView.Annotation
import Mathlib.Tactic.SplitIfs

/-!
# Cutting a text loses nothing

Spans that follow one another, as those of tokens and of matches do, cut a text into pieces that
give the text back when they are put together.
-/

namespace LogView

/-- Spans from a place on, none beginning before the one in front of it ends. -/
def Spaced (i : Nat) : List (Nat × Nat) → Prop
  | [] => True
  | (first, last) :: spans => i ≤ first ∧ first ≤ last ∧ Spaced last spans

theorem Spaced.mono {i j : Nat} {spans : List (Nat × Nat)} (spaced : Spaced j spans)
    (le : i ≤ j) : Spaced i spans := by
  cases spans with
  | nil => trivial
  | cons span spans => exact ⟨Nat.le_trans le spaced.1, spaced.2⟩

theorem flatMap_cutAt {i : Nat} {spans : List (Nat × Nat)} (spaced : Spaced i spans)
    (text : List Char) : (cutAt i spans text).flatMap Prod.snd = text := by
  induction spans generalizing i text with
  | nil => simp [cutAt]
  | cons span spans ih =>
    obtain ⟨first, last⟩ := span
    obtain ⟨from_i, ordered, rest⟩ := spaced
    have width : last - i = (first - i) + (last - first) := by omega
    simp only [cutAt, List.flatMap_cons, ih rest]
    rw [width, ← List.drop_drop, List.take_append_drop, List.take_append_drop]

theorem flatMap_pieces {spans : List (Nat × Nat)} (spaced : Spaced 0 spans) (text : List Char) :
    (pieces spans text).flatMap Prod.snd = text := by
  have dropped (cut : List (Bool × List Char)) :
      (cut.filter fun piece => !piece.2.isEmpty).flatMap Prod.snd = cut.flatMap Prod.snd := by
    induction cut with
    | nil => rfl
    | cons piece cut ih =>
      by_cases empty : piece.2 = []
      · simp [empty, ih]
      · simp [empty, ih]
  unfold pieces
  rw [dropped, flatMap_cutAt spaced]

namespace Token

theorem spaced_spansFrom (length? : List Char → Option Nat) (inWord : Bool) (skip i : Nat)
    (text : List Char) : Spaced (i + skip) (spansFrom length? inWord skip i text) := by
  induction text generalizing inWord skip i with
  | nil => trivial
  | cons c text ih =>
    cases skip with
    | succ skip =>
      have shift : i + (skip + 1) = i + 1 + skip := by omega
      rw [shift]
      exact ih (isWordChar c) skip (i + 1)
    | zero =>
      cases found : if inWord then none else length? (c :: text) with
      | some n =>
        simp only [spansFrom, found]
        have rest := ih (isWordChar c) (n - 1) (i + 1)
        exact ⟨Nat.le_refl i, Nat.le_add_right i n, rest.mono (by omega)⟩
      | none =>
        simp only [spansFrom, found]
        exact (ih (isWordChar c) 0 (i + 1)).mono (Nat.le_succ i)

theorem spaced_spans (length? : List Char → Option Nat) (text : List Char) :
    Spaced 0 (spans length? text) :=
  spaced_spansFrom length? false 0 0 text

end Token

namespace Pattern

theorem Matcher.spaced_spansFrom (matcher : Matcher) (line : Line) (fuel i : Nat) :
    Spaced i (matcher.spansFrom line fuel i) := by
  induction fuel generalizing i with
  | zero => trivial
  | succ fuel ih =>
    unfold spansFrom
    split_ifs
    · trivial
    · split
      · exact (ih (i + 1)).mono (Nat.le_succ i)
      · next j found =>
        split_ifs with taken
        · exact ⟨Nat.le_refl i, Nat.le_of_lt taken, ih j⟩
        · exact (ih (i + 1)).mono (Nat.le_succ i)

theorem spaced_spans (pattern : Pattern) (line : String) : Spaced 0 (pattern.spans line) :=
  pattern.matcher.spaced_spansFrom _ _ 0

end Pattern

end LogView
