import LogView.Pattern.Basic

/-!
# Reading a pattern part by part

What is read of a text is read of its parts, one after the other.  A part may be read as soon as
the reader has as many steps left as the part has characters, so a text never runs out of steps.
-/

namespace LogView
namespace Pattern
namespace Reader

/-- Whether reading a part outside verbose mode changes what was read so far in a certain way. -/
def Reads (part : List Char) (change : SoFar → SoFar) : Prop :=
  ∃ steps ≤ part.length, ∀ (fuel : Nat) (sofar : SoFar) (rest : List Char),
    sofar.verbose = false → (change sofar).verbose = false ∧
      readParts (fuel + steps) sofar (part ++ rest) = readParts fuel (change sofar) rest

theorem reads_nil : Reads [] id :=
  ⟨0, Nat.le_refl 0, fun _ _ _ plain => ⟨plain, rfl⟩⟩

theorem Reads.append {part part' : List Char} {change change' : SoFar → SoFar}
    (reads : Reads part change) (reads' : Reads part' change') :
    Reads (part ++ part') (change' ∘ change) := by
  obtain ⟨steps, le, first⟩ := reads
  obtain ⟨steps', le', second⟩ := reads'
  refine ⟨steps' + steps, ?_, ?_⟩
  · rw [List.length_append]
    omega
  · intro fuel sofar rest plain
    obtain ⟨plain', one⟩ := first (fuel + steps') sofar (part' ++ rest) plain
    obtain ⟨plain'', two⟩ := second fuel (change sofar) rest plain'
    refine ⟨plain'', ?_⟩
    rw [List.append_assoc, ← Nat.add_assoc, one, two]
    rfl

theorem reads_of_readPart {c : Char} {part : List Char} {change : SoFar → SoFar}
    (keeps : ∀ sofar, (change sofar).verbose = sofar.verbose)
    (step : ∀ (sofar : SoFar) (rest : List Char), sofar.verbose = false →
      readPart sofar c (part ++ rest) = .ok (change sofar, rest)) :
    Reads (c :: part) change := by
  refine ⟨1, Nat.le_add_left 1 part.length, ?_⟩
  intro fuel sofar rest plain
  refine ⟨(keeps sofar).trans plain, ?_⟩
  rw [readParts, plain, skip_false]
  simp only [List.cons_append, step sofar rest plain]
  rfl

theorem readParts_nil (fuel : Nat) (sofar : SoFar) : readParts fuel sofar [] = sofar.finish := by
  cases fuel with
  | zero => rfl
  | succ fuel =>
    rw [readParts]
    cases sofar.verbose <;> rfl

theorem Reads.finish {text : List Char} {change : SoFar → SoFar} (reads : Reads text change) :
    readParts (text.length + 1) ⟨false, .start, [], []⟩ text =
      (change ⟨false, .start, [], []⟩).finish := by
  obtain ⟨steps, le, whole⟩ := reads
  obtain ⟨more, split⟩ := Nat.exists_eq_add_of_le' le
  have read := (whole (more + 1) ⟨false, .start, [], []⟩ [] rfl).2
  rw [List.append_nil, readParts_nil] at read
  rw [← read, split]
  congr 1
  omega

/-- Adds items, one after the other. -/
def SoFar.addAll (sofar : SoFar) (items : List Expr) : SoFar := items.foldl SoFar.add sofar

theorem SoFar.addAll_eq (sofar : SoFar) (items : List Expr) :
    sofar.addAll items =
      { sofar with
        branch := ⟨sofar.branch.alternatives, items.reverse ++ sofar.branch.items⟩ } := by
  unfold addAll
  induction items generalizing sofar with
  | nil => rfl
  | cons item items ih =>
    rw [List.foldl_cons, ih]
    simp [add, Branch.add]

theorem reads_foldl {α : Type} {source : α → List Char} {change : SoFar → α → SoFar}
    (reads : ∀ part, Reads (source part) fun sofar => change sofar part) (parts : List α) :
    Reads (parts.flatMap source) fun sofar => parts.foldl change sofar := by
  induction parts with
  | nil => exact reads_nil
  | cons part parts ih => exact (reads part).append ih

theorem reads_flatMap {α : Type} {source : α → List Char} {item : α → Expr}
    (reads : ∀ part, Reads (source part) fun sofar => sofar.add (item part)) (parts : List α) :
    Reads (parts.flatMap source) fun sofar => sofar.addAll (parts.map item) := by
  unfold SoFar.addAll
  simp only [List.foldl_map]
  exact reads_foldl reads parts

theorem finish_addAll (items : List Expr) :
    (SoFar.addAll ⟨false, .start, [], []⟩ items).finish = .ok (Expr.ofItems items) := by
  rw [SoFar.addAll_eq]
  simp [SoFar.finish, Branch.close, Branch.start, Expr.ofAlternatives]

end Reader
end Pattern
end LogView
