import LogView.Pattern.Automaton

/-!
# Matches of a pattern in a line

A matcher gives, for a place of a line, the ends of the matches that start there, the preferred
end first and none twice.  Matches of a choice are those of its preferred side and then those of
the other; matches of a sequence go through the ends of its left side in order.

A search goes through the places of a line from left to right.  The first place where a match
starts gives the preferred match; the search goes on where that match ends, or one place later
if the match took nothing.
-/

namespace LogView
namespace Pattern

/-- Keeps the first of equal numbers, leaving out those that `seen` has a bit for. -/
def keepFirst (seen : Nat) : List Nat → List Nat
  | [] => []
  | i :: rest =>
    if seen.testBit i then keepFirst seen rest else i :: keepFirst (seen ||| 1 <<< i) rest

theorem head?_keepFirst_zero (places : List Nat) : (keepFirst 0 places).head? = places.head? := by
  cases places <;> simp [keepFirst]

/-- Finds the ends of the matches that start at a place, the preferred one first. -/
structure Matcher where
  ends : Line → Nat → List Nat
  /-- The end of the preferred match, found without looking for the others. -/
  first? : Line → Nat → Option Nat := fun line i => (ends line i).head?
  first?_eq : ∀ line i, first? line i = (ends line i).head? := by intros; rfl

namespace Matcher

def empty : Matcher where
  ends := fun _ i => [i]

def chars (set : CharSet) : Matcher where
  ends := fun line i => if (charAfter line i).any set.contains then [i + 1] else []

def place (condition : Condition) : Matcher where
  ends := fun line i => if condition.holds line i then [i] else []

def seq (left right : Matcher) : Matcher where
  ends := fun line i => keepFirst 0 ((left.ends line i).flatMap (right.ends line))

def choice (preferred other : Matcher) : Matcher where
  ends := fun line i => keepFirst 0 (preferred.ends line i ++ other.ends line i)
  first? := fun line i => (preferred.first? line i).or (other.first? line i)
  first?_eq := fun line i => by
    rw [head?_keepFirst_zero, List.head?_append, preferred.first?_eq, other.first?_eq]

def ofAutomaton (automaton : Automaton) : Matcher where
  ends := automaton.ends
  first? := automaton.first?
  first?_eq := automaton.first?_eq_head?

end Matcher

def Node.partwise : Node → Matcher
  | .empty => .empty
  | .chars set => .chars set
  | .place condition => .place condition
  | .seq left right => .seq left.partwise right.partwise
  | .choice preferred other => .choice preferred.partwise other.partwise
  | .capture body => body.partwise
  | .repeated body least most greedy =>
    .ofAutomaton (Automaton.ofNode (.repeated body least most greedy))

/-- The matcher of a node.  Each side of a choice that repeats anything is one automaton. -/
def Node.matcher : Node → Matcher
  | .choice preferred other => .choice preferred.matcher other.matcher
  | .capture body => body.matcher
  | node => if node.repeats then .ofAutomaton (Automaton.ofNode node) else node.partwise

namespace Matcher

def isMatch (matcher : Matcher) (line : Line) : Bool :=
  (List.range (line.size + 1)).any fun i => (matcher.first? line i).isSome

/-- The matches found from a place on that take at least one character, as start and end. -/
def spansFrom (matcher : Matcher) (line : Line) : (fuel : Nat) → (i : Nat) → List (Nat × Nat)
  | 0, _ => []
  | fuel + 1, i =>
    if line.size < i then []
    else
      match matcher.first? line i with
      | none => spansFrom matcher line fuel (i + 1)
      | some j =>
        if i < j then (i, j) :: spansFrom matcher line fuel j
        else spansFrom matcher line fuel (i + 1)

def spans (matcher : Matcher) (line : Line) : List (Nat × Nat) :=
  matcher.spansFrom line (line.size + 1) 0

end Matcher

end Pattern
end LogView
