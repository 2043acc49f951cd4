import LogView.Document
import Mathlib.Data.List.Basic

/-!
# The numbers of lines

Every line of a document stands at the place that its number tells, so numbers grow from line to
line, and still do so when lines are left out.
-/

namespace LogView

theorem getElem?_numberLines (start : Nat) (texts : List String) (i : Nat) :
    (numberLines start texts)[i]? = texts[i]?.map fun text => ⟨start + i, text⟩ := by
  induction texts generalizing start i with
  | nil => rfl
  | cons text texts ih =>
    cases i with
    | zero => rfl
    | succ i =>
      have place : start + (i + 1) = start + 1 + i := by omega
      rw [place]
      exact ih (start + 1) i

theorem map_text_numberLines (start : Nat) (texts : List String) :
    (numberLines start texts).map LogLine.text = texts := by
  induction texts generalizing start with
  | nil => rfl
  | cons text texts ih => rw [numberLines, List.map_cons, ih]

theorem map_text_logLines (text : String) :
    (logLines text).map LogLine.text = Text.lines text :=
  map_text_numberLines 1 _

theorem number_of_getElem? {start i : Nat} {texts : List String} {line : LogLine}
    (found : (numberLines start texts)[i]? = some line) : line.number = start + i := by
  rw [getElem?_numberLines] at found
  obtain ⟨text, -, rfl⟩ := Option.map_eq_some_iff.mp found
  rfl

theorem getElem?_of_mem_logLines {text : String} {line : LogLine} (mem : line ∈ logLines text) :
    1 ≤ line.number ∧ (logLines text)[line.number - 1]? = some line := by
  obtain ⟨i, found⟩ := List.getElem?_of_mem mem
  have number : line.number = 1 + i := number_of_getElem? found
  refine ⟨by omega, ?_⟩
  rw [number, Nat.add_sub_cancel_left]
  exact found

theorem pairwise_logLines (text : String) :
    (logLines text).Pairwise fun first second => first.number < second.number := by
  rw [List.pairwise_iff_getElem]
  intro i j inside inside' before
  have first : (logLines text)[i].number = 1 + i :=
    number_of_getElem? (List.getElem?_eq_getElem inside)
  have second : (logLines text)[j].number = 1 + j :=
    number_of_getElem? (List.getElem?_eq_getElem inside')
  omega

end LogView
