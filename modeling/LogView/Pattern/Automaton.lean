import LogView.Pattern.Node

/-!
# Searching with an automaton

A repetition is searched by an automaton that forks where the pattern leaves a choice.  From one
start it explores its forks depth first, the preferred side first, and never takes up a state
twice at one place.  The places where it accepts, in the order in which they are reached, are the
ends of the match, the preferred one first.
-/

namespace LogView
namespace Pattern

inductive State where
  | read (set : CharSet) (next : Nat)
  | check (condition : Condition) (next : Nat)
  | fork (preferred other : Nat)
  | accept

/-- The states of an automaton and the number of the one it starts in. -/
structure Automaton where
  states : Array State
  start : Nat

namespace Automaton

/-- A fork between going through a repeated body and leaving it. -/
def loopFork (greedy : Bool) (body exit : Nat) : State :=
  if greedy then .fork body exit else .fork exit body

/-- Adds a state in front, and makes it the start. -/
def push (automaton : Automaton) (state : State) : Automaton :=
  ⟨automaton.states.push state, automaton.states.size⟩

/-- Adds a body that may be left after each pass, made by `body` from the state that follows. -/
def loop (body : Automaton → Automaton) (greedy : Bool) (next : Automaton) : Automaton × Nat :=
  let again := next.states.size
  let entered := body ⟨next.states.push .accept, again⟩
  let fork := loopFork greedy entered.start next.start
  (⟨entered.states.setIfInBounds again fork, entered.start⟩, again)

/-- Adds a body that may be left out, its inner part being `next` and its way out `exit`. -/
def optional (body : Automaton → Automaton) (greedy : Bool) (exit : Nat) (next : Automaton) :
    Automaton :=
  let entered := body next
  entered.push (loopFork greedy entered.start exit)

/-- Puts the automaton of a node in front of the automaton of what follows. -/
def before : Node → Automaton → Automaton
  | .empty, next => next
  | .chars set, next => next.push (.read set next.start)
  | .place condition, next => next.push (.check condition next.start)
  | .seq left right, next => before left (before right next)
  | .choice left right, next =>
    let second := before right next
    let first := before left ⟨second.states, next.start⟩
    first.push (.fork first.start second.start)
  | .capture body, next => before body next
  | .repeated body least none greedy, next =>
    let (entered, again) := loop (before body) greedy next
    if least = 0 then
      if body.mayTakeNothing then entered.push (loopFork greedy entered.start next.start)
      else ⟨entered.states, again⟩
    else Nat.repeat (before body) (least - 1) entered
  | .repeated body least (some most) greedy, next =>
    Nat.repeat (before body) least
      (Nat.repeat (optional (before body) greedy next.start) (most - least) next)

def ofNode (node : Node) : Automaton :=
  before node ⟨#[.accept], 0⟩

def isMarked (marks : Array Nat) (state place : Nat) : Bool :=
  (marks.getD state 0).testBit place

/--
Where a state leads to at a place, the preferred side first; nothing if it accepts there.
-/
def successors? (states : Array State) (line : Line) (s i : Nat) : Option (List (Nat × Nat)) :=
  match states[s]? with
  | none => some []
  | some .accept => none
  | some (.fork preferred other) => some [(preferred, i), (other, i)]
  | some (.check condition next) => some (if condition.holds line i then [(next, i)] else [])
  | some (.read set next) =>
    some (if (charAfter line i).any set.contains then [(next, i + 1)] else [])

def mark (marks : Array Nat) (state place : Nat) : Array Nat :=
  marks.modify state (· ||| 1 <<< place)

/-- Explores the pending states and places, and gives the places of acceptance in order. -/
def explore (states : Array State) (line : Line) : (steps : Nat) → List (Nat × Nat) →
    (marks : Array Nat) → List Nat
  | 0, _, _ => []
  | _ + 1, [], _ => []
  | steps + 1, (s, i) :: pending, marks =>
    if isMarked marks s i then explore states line steps pending marks
    else
      match successors? states line s i with
      | none => i :: explore states line steps pending (mark marks s i)
      | some next => explore states line steps (next ++ pending) (mark marks s i)

/-- Explores the pending states and places up to the first acceptance, and gives its place. -/
def exploreFirst (states : Array State) (line : Line) : (steps : Nat) → List (Nat × Nat) →
    (marks : Array Nat) → Option Nat
  | 0, _, _ => none
  | _ + 1, [], _ => none
  | steps + 1, (s, i) :: pending, marks =>
    if isMarked marks s i then exploreFirst states line steps pending marks
    else
      match successors? states line s i with
      | none => some i
      | some next => exploreFirst states line steps (next ++ pending) (mark marks s i)

theorem exploreFirst_eq_head? (states : Array State) (line : Line) (steps : Nat)
    (pending : List (Nat × Nat)) (marks : Array Nat) :
    exploreFirst states line steps pending marks =
      (explore states line steps pending marks).head? := by
  induction steps generalizing pending marks with
  | zero => rfl
  | succ steps ih =>
    cases pending with
    | nil => rfl
    | cons head pending =>
      simp only [exploreFirst, explore]
      split
      · exact ih pending marks
      · cases successors? states line head.1 head.2 with
        | none => rfl
        | some next => exact ih (next ++ pending) (mark marks head.1 head.2)

/-- How many steps an exploration of a line takes at most. -/
def maxSteps (automaton : Automaton) (line : Line) : Nat :=
  2 * automaton.states.size * (line.size + 1) + 2

/-- The ends of the matches that start at a place, the preferred one first. -/
def ends (automaton : Automaton) (line : Line) (i : Nat) : List Nat :=
  explore automaton.states line (automaton.maxSteps line) [(automaton.start, i)]
    (Array.replicate automaton.states.size 0)

/-- The end of the preferred match that starts at a place. -/
def first? (automaton : Automaton) (line : Line) (i : Nat) : Option Nat :=
  exploreFirst automaton.states line (automaton.maxSteps line) [(automaton.start, i)]
    (Array.replicate automaton.states.size 0)

theorem first?_eq_head? (automaton : Automaton) (line : Line) (i : Nat) :
    automaton.first? line i = (automaton.ends line i).head? :=
  exploreFirst_eq_head? automaton.states line (automaton.maxSteps line) [(automaton.start, i)] _

end Automaton

end Pattern
end LogView
