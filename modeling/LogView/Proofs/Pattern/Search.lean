import LogView.Pattern.Basic
import Mathlib.Tactic.SplitIfs

/-!
# Searching a line

A match that starts at a place of a line ends at a place of the line, and not before it started.
So what a search finds are stretches of the line that take at least one character, and it finds one
as soon as the preferred match at some place takes a character.
-/

namespace LogView
namespace Pattern

theorem mem_keepFirst {seen j : Nat} {places : List Nat} :
    j ∈ keepFirst seen places ↔ j ∈ places ∧ seen.testBit j = false := by
  induction places generalizing seen with
  | nil => simp [keepFirst]
  | cons i places ih =>
    unfold keepFirst
    by_cases here : i = j
    · subst here
      split_ifs with known
      · simp [ih, known]
      · simp [known]
    · have other : j ≠ i := Ne.symm here
      split_ifs
      · simp [ih, other]
      · simp [ih, other, Nat.testBit_or, Nat.one_shiftLeft, here]

theorem mem_keepFirst_zero {j : Nat} {places : List Nat} :
    j ∈ keepFirst 0 places ↔ j ∈ places := by
  simp [mem_keepFirst]

theorem lt_size_of_charAfter {line : Line} {i : Nat} {set : CharSet}
    (found : (charAfter line i).any set.contains = true) : i < line.size := by
  rcases Nat.lt_or_ge i line.size with inside | outside
  · exact inside
  · have missing : charAfter line i = none := Array.getElem?_eq_none outside
    rw [missing] at found
    cases found

namespace Automaton

theorem successors?_inside {states : Array State} {line : Line} {s i : Nat}
    {next : List (Nat × Nat)} (leads : successors? states line s i = some next)
    (inside : i ≤ line.size) : ∀ place ∈ next, i ≤ place.2 ∧ place.2 ≤ line.size := by
  intro place mem
  unfold successors? at leads
  split at leads
  · cases leads
    cases mem
  · cases leads
  · cases leads
    rcases List.mem_cons.mp mem with rfl | mem
    · exact ⟨Nat.le_refl _, inside⟩
    · cases List.mem_singleton.mp mem
      exact ⟨Nat.le_refl _, inside⟩
  · cases leads
    split_ifs at mem
    · cases List.mem_singleton.mp mem
      exact ⟨Nat.le_refl _, inside⟩
    · cases mem
  · cases leads
    split_ifs at mem with found
    · cases List.mem_singleton.mp mem
      exact ⟨Nat.le_succ i, lt_size_of_charAfter found⟩
    · cases mem

theorem explore_inside {states : Array State} {line : Line} {start : Nat} (steps : Nat)
    {pending : List (Nat × Nat)} (marks : Array Nat)
    (inside : ∀ place ∈ pending, start ≤ place.2 ∧ place.2 ≤ line.size) :
    ∀ j ∈ explore states line steps pending marks, start ≤ j ∧ j ≤ line.size := by
  induction steps generalizing pending marks with
  | zero => exact nofun
  | succ steps ih =>
    cases pending with
    | nil => exact nofun
    | cons head pending =>
      obtain ⟨here, rest⟩ := List.forall_mem_cons.mp inside
      unfold explore
      split
      · exact ih marks rest
      · split
        · intro j mem
          rcases List.mem_cons.mp mem with rfl | mem
          · exact here
          · exact ih _ rest j mem
        · next next leads =>
          apply ih
          intro place mem
          rcases List.mem_append.mp mem with mem | mem
          · have step := successors?_inside leads here.2 place mem
            omega
          · exact rest place mem

end Automaton

namespace Matcher

/-- Whether all matches that start at a place of a line end at a place of it, and not before. -/
def Inside (matcher : Matcher) : Prop :=
  ∀ (line : Line) (i : Nat), i ≤ line.size → ∀ j ∈ matcher.ends line i, i ≤ j ∧ j ≤ line.size

theorem inside_ofAutomaton (automaton : Automaton) : (ofAutomaton automaton).Inside := by
  intro line i inside
  apply Automaton.explore_inside
  intro place mem
  cases List.mem_singleton.mp mem
  exact ⟨Nat.le_refl _, inside⟩

theorem Inside.seq {left right : Matcher} (first : left.Inside) (second : right.Inside) :
    (left.seq right).Inside := by
  intro line i inside j mem
  obtain ⟨k, mem, mem'⟩ := List.mem_flatMap.mp (mem_keepFirst_zero.mp mem)
  have before := first line i inside k mem
  have after := second line k before.2 j mem'
  omega

theorem Inside.choice {preferred other : Matcher} (first : preferred.Inside)
    (second : other.Inside) : (preferred.choice other).Inside := by
  intro line i inside j mem
  rcases List.mem_append.mp (mem_keepFirst_zero.mp mem) with mem | mem
  · exact first line i inside j mem
  · exact second line i inside j mem

end Matcher

theorem Node.inside_partwise (node : Node) : node.partwise.Inside := by
  induction node with
  | empty =>
    intro line i inside j mem
    cases List.mem_singleton.mp mem
    exact ⟨Nat.le_refl _, inside⟩
  | chars set =>
    intro line i inside j mem
    simp only [Node.partwise, Matcher.chars] at mem
    split_ifs at mem with found
    · cases List.mem_singleton.mp mem
      exact ⟨Nat.le_succ i, lt_size_of_charAfter found⟩
    · cases mem
  | place condition =>
    intro line i inside j mem
    simp only [Node.partwise, Matcher.place] at mem
    split_ifs at mem
    · cases List.mem_singleton.mp mem
      exact ⟨Nat.le_refl _, inside⟩
    · cases mem
  | seq left right ihLeft ihRight => exact ihLeft.seq ihRight
  | choice preferred other ihPreferred ihOther => exact ihPreferred.choice ihOther
  | capture body ih => exact ih
  | repeated body least most greedy => exact Matcher.inside_ofAutomaton _

theorem Node.inside_matcher (node : Node) : node.matcher.Inside := by
  have whole (node : Node) :
      (if node.repeats then Matcher.ofAutomaton (Automaton.ofNode node)
        else node.partwise).Inside := by
    split_ifs
    · exact Matcher.inside_ofAutomaton _
    · exact node.inside_partwise
  induction node with
  | choice preferred other ihPreferred ihOther => exact ihPreferred.choice ihOther
  | capture body ih => exact ih
  | _ => exact whole _

namespace Matcher

variable {matcher : Matcher} {line : Line}

theorem Inside.first? (inside : matcher.Inside) {i j : Nat} (place : i ≤ line.size)
    (found : matcher.first? line i = some j) : i ≤ j ∧ j ≤ line.size := by
  rw [matcher.first?_eq] at found
  exact inside line i place j (List.mem_of_head? found)

theorem mem_spansFrom {fuel i : Nat} {span : Nat × Nat}
    (mem : span ∈ matcher.spansFrom line fuel i) :
    span.1 ≤ line.size ∧ matcher.first? line span.1 = some span.2 ∧ span.1 < span.2 := by
  induction fuel generalizing i with
  | zero => cases mem
  | succ fuel ih =>
    unfold spansFrom at mem
    split_ifs at mem with outside
    · cases mem
    · split at mem
      · exact ih mem
      · next j found =>
        split_ifs at mem with taken
        · rcases List.mem_cons.mp mem with rfl | mem
          · exact ⟨by omega, found, taken⟩
          · exact ih mem
        · exact ih mem

/--
A search passes over a place where the preferred match takes a character only inside of something
else it found.
-/
theorem exists_covering {fuel i k j : Nat} (before : i ≤ k) (enough : k < i + fuel)
    (inside : k ≤ line.size) (found : matcher.first? line k = some j) (taken : k < j) :
    ∃ span ∈ matcher.spansFrom line fuel i, span.1 ≤ k ∧ k < span.2 := by
  induction fuel generalizing i with
  | zero => omega
  | succ fuel ih =>
    unfold spansFrom
    rw [if_neg (by omega)]
    -- the search is at the place, or finds something else before it, or goes on to the next place
    by_cases here : i = k
    · rw [here, found]
      simp [taken]
    · have onward := ih (i := i + 1) (by omega) (by omega)
      split
      · exact onward
      · next stop _ =>
        split_ifs with longer
        · rcases Nat.lt_or_ge k stop with covers | behind
          · exact ⟨(i, stop), List.mem_cons_self, before, covers⟩
          · obtain ⟨span, mem, covers⟩ := ih behind (by omega)
            exact ⟨span, List.mem_cons_of_mem _ mem, covers⟩
        · exact onward

end Matcher

/-- The end of the match that a pattern prefers at a place of a line. -/
def matchAt? (pattern : Pattern) (line : String) (i : Nat) : Option Nat :=
  pattern.matcher.first? line.toList.toArray i

theorem size_line (line : String) : line.toList.toArray.size = line.length := by
  rw [List.size_toArray, String.length_toList]

variable {pattern : Pattern} {line : String}

theorem matchAt?_inside {i j : Nat} (place : i ≤ line.length)
    (found : pattern.matchAt? line i = some j) : i ≤ j ∧ j ≤ line.length := by
  have inside : pattern.matcher.Inside := by
    rw [pattern.matcher_eq]
    exact pattern.node.inside_matcher
  rw [← size_line] at place ⊢
  exact inside.first? place found

theorem mem_spans {span : Nat × Nat} (mem : span ∈ pattern.spans line) :
    pattern.matchAt? line span.1 = some span.2 ∧ span.1 < span.2 ∧ span.2 ≤ line.length := by
  obtain ⟨place, found, taken⟩ := Matcher.mem_spansFrom mem
  rw [size_line] at place
  exact ⟨found, taken, (matchAt?_inside place found).2⟩

/-- A preferred match that takes a character is found, or another one that covers its beginning. -/
theorem exists_span {i j : Nat} (place : i ≤ line.length)
    (found : pattern.matchAt? line i = some j) (taken : i < j) :
    ∃ span ∈ pattern.spans line, span.1 ≤ i ∧ i < span.2 := by
  rw [← size_line] at place
  exact Matcher.exists_covering (Nat.zero_le i) (by omega) place found taken

theorem spans_ne_nil_iff :
    pattern.spans line ≠ [] ↔
      ∃ i j, i ≤ line.length ∧ pattern.matchAt? line i = some j ∧ i < j := by
  constructor
  · intro nonempty
    obtain ⟨span, mem⟩ := List.exists_mem_of_ne_nil _ nonempty
    obtain ⟨found, taken, inside⟩ := mem_spans mem
    exact ⟨span.1, span.2, by omega, found, taken⟩
  · rintro ⟨i, j, place, found, taken⟩
    obtain ⟨span, mem, -⟩ := exists_span place found taken
    exact List.ne_nil_of_mem mem

end Pattern
end LogView
