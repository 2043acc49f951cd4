import LogView.Pattern.Size
import Mathlib.Data.List.Basic
import Mathlib.Tactic.SplitIfs

/-!
# Sizes of rows and alternatives

A row of nodes takes what its parts take, so a row is no larger than another one whose parts are
larger one by one.  Each alternative is a way of one fork, however alternatives are put together.
So an alternative is no larger than all of them, in either direction of reading.
-/

namespace LogView
namespace Pattern
namespace Node

/-- Whether a node takes no more than another one that is held to the same edges of the line. -/
structure NoLarger (small large : Node) : Prop where
  size_le : ∀ backward, small.size backward ≤ large.size backward
  anchored : ∀ backward, small.isAnchored backward = large.isAnchored backward
  nothing : small.takesNothing = large.takesNothing

namespace NoLarger

theorem refl (node : Node) : node.NoLarger node :=
  ⟨fun _ => Nat.le_refl _, fun _ => rfl, rfl⟩

theorem seq {small large next next' : Node} (first : small.NoLarger large)
    (second : next.NoLarger next') : (Node.seq small next).NoLarger (.seq large next') where
  size_le backward := Nat.add_le_add (first.size_le backward) (second.size_le backward)
  anchored backward := by
    simp only [isAnchored, first.anchored, second.anchored, first.nothing, second.nothing]
  nothing := by rw [takesNothing, takesNothing, first.nothing, second.nothing]

theorem bytes_le {small large : Node} (le : small.NoLarger large) : small.bytes ≤ large.bytes := by
  have directed (backward : Bool) :
      small.directedBytes backward ≤ large.directedBytes backward := by
    have size_le := le.size_le backward
    unfold directedBytes alone
    dsimp only
    rw [le.anchored]
    omega
  have forwards := directed false
  have backwards := directed true
  unfold bytes
  omega

end NoLarger

/-- What a node takes besides its own parts, in whatever direction. -/
theorem bytes_le_of_size {node : Node} {n : Nat} (filled : 32 ≤ n)
    (le : ∀ backward, node.size backward ≤ n) : node.bytes ≤ n + 208 := by
  have directed (backward : Bool) : node.directedBytes backward ≤ n + 208 := by
    have size_le := le backward
    unfold directedBytes
    simp only [alone, stateBytes, captureBytes, forkBytes, readBytes]
    split_ifs <;> omega
  have forwards := directed false
  have backwards := directed true
  unfold bytes
  omega

/-- Nodes as alternatives, the preferred one first. -/
def ofAlternatives : List Node → Node
  | [] => .empty
  | first :: rest => rest.foldl .choice first

/-- What a node takes as an alternative. -/
def way (backward : Bool) (node : Node) : Nat := node.side (node.size backward)

theorem way_choice (backward : Bool) (left right : Node) :
    (Node.choice left right).way backward = left.way backward + right.way backward := by
  simp only [way, side, size]
  omega

theorem way_le (backward : Bool) (node : Node) :
    node.way backward ≤ 4 + alone (node.size backward) := by
  unfold way side alone
  split <;> omega

theorem way_capture (backward : Bool) (body : Node) :
    4 + alone (body.size backward) ≤ (Node.capture body).way backward := by
  simp only [way, side, size, alone]
  omega

theorem way_le_of_mem (backward : Bool) {nodes : List Node} {part : Node} (mem : part ∈ nodes) :
    part.way backward ≤ (ofAlternatives nodes).way backward := by
  have grows (rest : List Node) (first : Node) :
      first.way backward ≤ (rest.foldl .choice first).way backward ∧
        ∀ part ∈ rest, part.way backward ≤ (rest.foldl .choice first).way backward := by
    induction rest generalizing first with
    | nil => exact ⟨Nat.le_refl _, List.forall_mem_nil _⟩
    | cons next rest ih =>
      obtain ⟨both, later⟩ := ih (.choice first next)
      rw [way_choice] at both
      rw [List.foldl_cons, List.forall_mem_cons]
      exact ⟨by omega, by omega, later⟩
  cases nodes with
  | nil => cases mem
  | cons first rest =>
    obtain ⟨head, tail⟩ := grows rest first
    rcases List.mem_cons.mp mem with rfl | mem
    · exact head
    · exact tail part mem

/-- Alternatives together match only at an edge where each of them does. -/
theorem isAnchored_of_mem {backward : Bool} {nodes : List Node} {part : Node} (mem : part ∈ nodes)
    (anchored : (ofAlternatives nodes).isAnchored backward = true) :
    part.isAnchored backward = true := by
  have each (rest : List Node) (first : Node)
      (anchored : (rest.foldl .choice first).isAnchored backward = true) :
      ∀ part ∈ first :: rest, part.isAnchored backward = true := by
    induction rest generalizing first with
    | nil => exact List.forall_mem_singleton.mpr anchored
    | cons next rest ih =>
      obtain ⟨both, later⟩ := List.forall_mem_cons.mp (ih (.choice first next) anchored)
      obtain ⟨head, behind⟩ := Bool.and_eq_true_iff.mp both
      exact List.forall_mem_cons.mpr ⟨head, List.forall_mem_cons.mpr ⟨behind, later⟩⟩
  cases nodes with
  | nil => cases mem
  | cons first rest => exact each rest first anchored part mem

theorem directedBytes_le_of_mem (backward : Bool) {nodes : List Node} {body : Node}
    (mem : .capture body ∈ nodes) :
    body.directedBytes backward ≤ (ofAlternatives nodes).directedBytes backward := by
  have low := way_capture backward body
  have part := way_le_of_mem backward mem
  have high := way_le backward (ofAlternatives nodes)
  have anchored (whole : (ofAlternatives nodes).isAnchored backward = true) :
      body.isAnchored backward = true := by
    simpa only [isAnchored] using isAnchored_of_mem mem whole
  unfold directedBytes
  dsimp only
  split_ifs with own whole
  · omega
  · simp only [forkBytes, readBytes]
    omega
  · exact absurd (anchored ‹_›) own
  · omega

/-- What is captured as an alternative is no larger than all alternatives together. -/
theorem bytes_le_of_mem {nodes : List Node} {body : Node} (mem : .capture body ∈ nodes) :
    body.bytes ≤ (ofAlternatives nodes).bytes := by
  have forwards := directedBytes_le_of_mem false mem
  have backwards := directedBytes_le_of_mem true mem
  unfold bytes
  omega

end Node
end Pattern
end LogView
