import LogView.Proofs.Annotation.Pieces
import Mathlib.Tactic.SplitIfs

/-!
# Covered places

Spans cut a text into pieces inside and outside of them, so each character is told to be inside
exactly if a span covers its place.  Spans that touch one another are joined into runs.  Runs lie
apart, so they can be read off from which places are covered.
-/

namespace LogView

/-- Whether a place lies in one of some spans. -/
def covered (spans : List (Nat × Nat)) (k : Nat) : Bool :=
  spans.any fun span => span.1 ≤ k && k < span.2

/-- Spans up to a place, each of which takes at least one character. -/
def Filled (n : Nat) (spans : List (Nat × Nat)) : Prop :=
  ∀ span ∈ spans, span.1 < span.2 ∧ span.2 ≤ n

theorem covered_cons (first last : Nat) (spans : List (Nat × Nat)) (k : Nat) :
    covered ((first, last) :: spans) k = (decide (first ≤ k ∧ k < last) || covered spans k) := by
  simp [covered]

theorem covered_of_lt {i k : Nat} {spans : List (Nat × Nat)} (spaced : Spaced i spans)
    (before : k < i) : covered spans k = false := by
  induction spans generalizing i with
  | nil => rfl
  | cons span spans ih =>
    obtain ⟨first, last⟩ := span
    obtain ⟨start, ordered, rest⟩ := spaced
    rw [covered_cons, ih rest (by omega), Bool.or_false, decide_eq_false_iff_not]
    omega

/-- The characters of pieces, each with the flag of its piece. -/
def flaggedChars (pieces : List (Bool × List Char)) : List (Bool × Char) :=
  pieces.flatMap fun piece => piece.2.map (Prod.mk piece.1)

/-- The characters of a text from a place on, each with whether its place is covered. -/
def coveredChars (spans : List (Nat × Nat)) (i : Nat) (text : List Char) : List (Bool × Char) :=
  text.mapIdx fun k c => (covered spans (i + k), c)

theorem coveredChars_append (spans : List (Nat × Nat)) (i : Nat) (text rest : List Char) :
    coveredChars spans i (text ++ rest) =
      coveredChars spans i text ++ coveredChars spans (i + text.length) rest := by
  unfold coveredChars
  rw [List.mapIdx_append]
  congr 2
  funext k c
  rw [Nat.add_assoc, Nat.add_comm k]

theorem coveredChars_eq_map {spans : List (Nat × Nat)} {i : Nat} {text : List Char} {flag : Bool}
    (same : ∀ k, i ≤ k → k < i + text.length → covered spans k = flag) :
    coveredChars spans i text = text.map (Prod.mk flag) := by
  apply List.ext_getElem
  · simp [coveredChars]
  · intro k inside inside'
    rw [List.length_map] at inside'
    have flagged := same (i + k) (by omega) (by omega)
    simp [coveredChars, flagged]

theorem coveredChars_nil (i : Nat) (text : List Char) :
    coveredChars [] i text = text.map (Prod.mk false) :=
  coveredChars_eq_map fun _ _ _ => rfl

theorem coveredChars_congr {spans spans' : List (Nat × Nat)} {i : Nat}
    (same : ∀ k, i ≤ k → covered spans k = covered spans' k) (text : List Char) :
    coveredChars spans i text = coveredChars spans' i text := by
  unfold coveredChars
  congr 1
  funext k c
  rw [same (i + k) (Nat.le_add_right i k)]

section FirstSpan

variable {i first last : Nat} {spans : List (Nat × Nat)} {text : List Char}

theorem split_at_span (start : i ≤ first) (ordered : first ≤ last) (text : List Char) :
    text = text.take (first - i) ++ ((text.drop (first - i)).take (last - first) ++
      text.drop (last - i)) := by
  have width : last - i = (first - i) + (last - first) := by omega
  rw [width, ← List.drop_drop, List.take_append_drop, List.take_append_drop]

theorem coveredChars_first (spaced : Spaced i ((first, last) :: spans))
    (inside : last ≤ i + text.length) :
    coveredChars ((first, last) :: spans) i text =
      (text.take (first - i)).map (Prod.mk false) ++
        (((text.drop (first - i)).take (last - first)).map (Prod.mk true) ++
          coveredChars spans last (text.drop (last - i))) := by
  obtain ⟨start, ordered, rest⟩ := spaced
  have lead : (text.take (first - i)).length = first - i := by
    rw [List.length_take]
    omega
  have body : ((text.drop (first - i)).take (last - first)).length = last - first := by
    rw [List.length_take, List.length_drop]
    omega
  have place : i + (first - i) = first := by omega
  have place' : first + (last - first) = last := by omega
  conv => lhs; rw [split_at_span start ordered text]
  rw [coveredChars_append, coveredChars_append, lead, body, place, place']
  congr 1
  · apply coveredChars_eq_map
    intro k _ before
    rw [lead] at before
    rw [covered_cons, covered_of_lt rest (by omega), Bool.or_false, decide_eq_false_iff_not]
    omega
  · congr 1
    · apply coveredChars_eq_map
      intro k after before
      rw [body] at before
      rw [covered_cons, Bool.or_eq_true, decide_eq_true_eq]
      left
      omega
    · apply coveredChars_congr
      intro k after
      rw [covered_cons, Bool.or_eq_right_iff_imp, decide_eq_true_eq]
      omega

end FirstSpan

/-- Cutting a text at spans flags each character by whether its place is covered. -/
theorem flaggedChars_cutAt {i : Nat} {spans : List (Nat × Nat)} {text : List Char}
    (spaced : Spaced i spans) (inside : ∀ span ∈ spans, span.2 ≤ i + text.length) :
    flaggedChars (cutAt i spans text) = coveredChars spans i text := by
  induction spans generalizing i text with
  | nil =>
    rw [coveredChars_nil]
    simp [flaggedChars, cutAt]
  | cons span spans ih =>
    obtain ⟨first, last⟩ := span
    obtain ⟨here, later⟩ := List.forall_mem_cons.mp inside
    have start := spaced.1
    have ordered := spaced.2.1
    have inside' : ∀ span ∈ spans, span.2 ≤ last + (text.drop (last - i)).length := by
      intro span mem
      have bound := later span mem
      rw [List.length_drop]
      omega
    rw [coveredChars_first spaced here, ← ih spaced.2.2 inside']
    simp [flaggedChars, cutAt]

theorem flaggedChars_pieces {spans : List (Nat × Nat)} {text : List Char}
    (spaced : Spaced 0 spans) (filled : Filled text.length spans) :
    flaggedChars (pieces spans text) = coveredChars spans 0 text := by
  have dropped (cut : List (Bool × List Char)) :
      flaggedChars (cut.filter fun piece => !piece.2.isEmpty) = flaggedChars cut := by
    induction cut with
    | nil => rfl
    | cons piece cut ih =>
      unfold flaggedChars at ih ⊢
      by_cases empty : piece.2 = []
      · simp [empty, ih]
      · simp [empty, ih]
  unfold pieces
  rw [dropped, flaggedChars_cutAt spaced]
  intro span mem
  have bound := (filled span mem).2
  omega

/-- Joins spans that touch one another. -/
def joinTouching : List (Nat × Nat) → List (Nat × Nat)
  | [] => []
  | (first, last) :: spans =>
    match joinTouching spans with
    | [] => [(first, last)]
    | (start, stop) :: runs =>
      if last = start then (first, stop) :: runs else (first, last) :: (start, stop) :: runs

/-- Runs from a place on, with at least one place between one and the next. -/
def Apart (i : Nat) : List (Nat × Nat) → Prop
  | [] => True
  | (first, last) :: runs => i ≤ first ∧ first < last ∧ Apart (last + 1) runs

theorem Apart.mono {i j : Nat} {runs : List (Nat × Nat)} (apart : Apart j runs) (le : i ≤ j) :
    Apart i runs := by
  cases runs with
  | nil => trivial
  | cons run runs => exact ⟨Nat.le_trans le apart.1, apart.2⟩

theorem Apart.spaced {i : Nat} {runs : List (Nat × Nat)} (apart : Apart i runs) :
    Spaced i runs := by
  induction runs generalizing i with
  | nil => trivial
  | cons run runs ih =>
    obtain ⟨start, taken, rest⟩ := apart
    exact ⟨start, Nat.le_of_lt taken, (ih rest).mono (Nat.le_succ _)⟩

/-- Joined spans lie apart, end where spans end, and cover what the spans cover. -/
theorem joinTouching_spec {i n : Nat} {spans : List (Nat × Nat)} (spaced : Spaced i spans)
    (filled : Filled n spans) :
    Apart i (joinTouching spans) ∧ Filled n (joinTouching spans) ∧
      ∀ k, covered (joinTouching spans) k = covered spans k := by
  induction spans generalizing i with
  | nil => exact ⟨trivial, filled, fun _ => rfl⟩
  | cons span spans ih =>
    obtain ⟨first, last⟩ := span
    obtain ⟨onward, -, rest⟩ := spaced
    obtain ⟨here, later⟩ := List.forall_mem_cons.mp filled
    obtain ⟨apart, filled', same⟩ := ih rest later
    unfold joinTouching
    cases joined : joinTouching spans with
    | nil =>
      rw [joined] at same
      refine ⟨⟨onward, here.1, trivial⟩, List.forall_mem_cons.mpr ⟨here, nofun⟩, ?_⟩
      intro k
      rw [covered_cons, covered_cons, ← same k]
    | cons run runs =>
      obtain ⟨start, stop⟩ := run
      rw [joined] at apart filled' same
      obtain ⟨after, taken, apart'⟩ := apart
      obtain ⟨run, runs'⟩ := List.forall_mem_cons.mp filled'
      dsimp only at here run ⊢
      split_ifs with touching
      · refine ⟨⟨onward, by omega, apart'⟩, List.forall_mem_cons.mpr ⟨⟨by omega, run.2⟩, runs'⟩, ?_⟩
        intro k
        rw [covered_cons, covered_cons, ← same k, covered_cons, ← Bool.or_assoc]
        congr 1
        rw [← Bool.decide_or, decide_eq_decide]
        omega
      · refine ⟨⟨onward, here.1, by omega, taken, apart'⟩,
          List.forall_mem_cons.mpr ⟨here, filled'⟩, ?_⟩
        intro k
        rw [covered_cons, covered_cons first last spans, same k]

/-- Spans are joined only if they touch. -/
example : joinTouching [(0, 1), (1, 3), (5, 6)] = [(0, 3), (5, 6)] := rfl

/--
The stretches of equal flags, `marking` telling the flag of the stretch that is read and `sofar`
its characters.  The last one is a stretch outside, an empty one if need be.
-/
def stretchesFrom (marking : Bool) (sofar : List Char) :
    List (Bool × Char) → List (Bool × List Char)
  | [] => if marking then [(true, sofar), (false, [])] else [(false, sofar)]
  | (flag, c) :: rest =>
    if flag = marking then stretchesFrom marking (sofar ++ [c]) rest
    else (marking, sofar) :: stretchesFrom flag [c] rest

theorem stretchesFrom_same (marking : Bool) (sofar text : List Char) (rest : List (Bool × Char)) :
    stretchesFrom marking sofar (text.map (Prod.mk marking) ++ rest) =
      stretchesFrom marking (sofar ++ text) rest := by
  induction text generalizing sofar with
  | nil => simp
  | cons c text ih => simp [stretchesFrom, ih]

theorem stretchesFrom_other {marking flag : Bool} (differs : flag ≠ marking) (sofar : List Char)
    {text : List Char} (nonempty : text ≠ []) (rest : List (Bool × Char)) :
    stretchesFrom marking sofar (text.map (Prod.mk flag) ++ rest) =
      (marking, sofar) :: stretchesFrom flag text rest := by
  obtain ⟨c, text, rfl⟩ := List.exists_cons_of_ne_nil nonempty
  simp [stretchesFrom, differs, stretchesFrom_same]

theorem stretchesFrom_ends {sofar : List Char} {rest : List (Bool × Char)}
    (outside : ∀ char ∈ rest.head?, char.1 = false) :
    stretchesFrom true sofar rest = (true, sofar) :: stretchesFrom false [] rest := by
  cases rest with
  | nil => rfl
  | cons char rest =>
    obtain ⟨flag, c⟩ := char
    obtain rfl : flag = false := outside _ rfl
    rfl

/-- Runs that lie apart are read off from which places they cover. -/
theorem stretchesFrom_covered {i : Nat} {runs : List (Nat × Nat)} {text : List Char}
    (apart : Apart i runs) (filled : Filled (i + text.length) runs) :
    stretchesFrom false [] (coveredChars runs i text) = cutAt i runs text := by
  induction runs generalizing i text with
  | nil =>
    rw [coveredChars_nil]
    have read := stretchesFrom_same false [] text []
    rw [List.append_nil] at read
    rw [read]
    rfl
  | cons run runs ih =>
    obtain ⟨first, last⟩ := run
    obtain ⟨here, later⟩ := List.forall_mem_cons.mp filled
    dsimp only at here
    have start := apart.1
    have inside : (text.drop (first - i)).take (last - first) ≠ [] := by
      rw [← List.length_pos_iff, List.length_take, List.length_drop]
      omega
    have filled' : Filled (last + (text.drop (last - i)).length) runs := by
      intro span mem
      have bound := later span mem
      rw [List.length_drop]
      omega
    -- the run is whole: the place where it ends is not covered
    have outside : ∀ char ∈ (coveredChars runs last (text.drop (last - i))).head?,
        char.1 = false := by
      have uncovered := covered_of_lt apart.2.2.spaced (Nat.lt_succ_self last)
      intro char mem
      cases rest : text.drop (last - i) with
      | nil =>
        rw [rest] at mem
        cases mem
      | cons c rest' =>
        rw [rest, coveredChars, List.mapIdx_cons, List.head?_cons, Option.mem_some_iff] at mem
        rw [← mem]
        exact uncovered
    rw [coveredChars_first apart.spaced here.2, stretchesFrom_same, List.nil_append,
      stretchesFrom_other (by decide) _ inside, stretchesFrom_ends outside,
      ih (apart.2.2.mono (Nat.le_succ last)) filled']
    rfl

end LogView
