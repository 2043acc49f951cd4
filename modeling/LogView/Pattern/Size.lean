import LogView.Pattern.ByteRange
import LogView.Pattern.Node

/-!
# The size of a pattern

A pattern is as large as the larger one of two automata, of which one reads a line forwards and the
other one backwards.  A state takes 32 bytes, 8 more for each range of bytes if it reads one of
several, and 4 more for each way on if it is a fork.  Only the automaton that reads forwards marks
where captures begin and end, among them that of the match as a whole.
-/

namespace LogView
namespace Pattern

def stateBytes : Nat := 32

/-- The bytes of a state that reads one of several ranges of bytes. -/
def readBytes (ranges : Nat) : Nat := stateBytes + 8 * ranges

def forkBytes (ways : Nat) : Nat := stateBytes + 4 * ways

def captureBytes (backward : Bool) : Nat := if backward then 0 else 2 * stateBytes

/--
A single character takes a state for each of its bytes, and any characters of ASCII take one state
and another one to meet in.  Of other sets the states are those of the remainders of the forms, and
backwards those of their beginnings, with a fork between the forms.
-/
def formBytes (backward : Bool) (forms : List ByteForm) : Nat :=
  if forms.length = 1 && forms.flatten.all fun range => range.1 == range.2 then
    stateBytes * forms.flatten.length
  else if forms.all fun form => form.length == 1 then stateBytes + readBytes forms.length
  else if backward then forkBytes forms.length + stateBytes * (beginnings 4 forms + 1)
  else
    (remainders 4 forms).eraseDups.foldr
      (fun rest bytes => readBytes (branches rest).length + bytes) 0

namespace Node

/-- Whether a node can match only at the edge of the line where reading begins. -/
def isAnchored (backward : Bool) : Node → Bool
  | .empty => false
  | .chars _ => false
  | .place condition => condition == if backward then .textEnd else .textStart
  | .seq left right =>
    if backward then right.isAnchored true || right.takesNothing && left.isAnchored true
    else left.isAnchored false || left.takesNothing && right.isAnchored false
  | .choice left right => left.isAnchored backward && right.isAnchored backward
  | .capture body => body.isAnchored backward
  | .repeated body least _ _ => 0 < least && body.isAnchored backward

/-- What a part takes that stands alone: a state even if it is empty. -/
def alone (size : Nat) : Nat := max stateBytes size

/-- What a node takes as one side of a choice.  The sides of a choice are ways of one fork. -/
def side (node : Node) (size : Nat) : Nat :=
  match node with
  | .choice _ _ => size - (forkBytes 0 + stateBytes)
  | _ => 4 + alone size

/-- What a node takes besides other parts; nothing if it is empty. -/
def size (backward : Bool) : Node → Nat
  | .empty => 0
  | .chars set => formBytes backward set.forms
  | .place _ => stateBytes
  | .seq left right => left.size backward + right.size backward
  | .choice left right =>
    forkBytes 0 + stateBytes + left.side (left.size backward) + right.side (right.size backward)
  | .capture body => captureBytes backward + alone (body.size backward)
  | .repeated body least none _ =>
    let pass := alone (body.size backward)
    if least = 0 && body.mayTakeNothing then 2 * forkBytes 2 + stateBytes + pass
    else max 1 least * pass + forkBytes 2
  | .repeated body least (some most) _ =>
    let pass := alone (body.size backward)
    let optional := (most - least) * (pass + forkBytes 2)
    if least = most then alone (least * pass)
    else if least = 0 && most = 1 then optional + stateBytes
    else alone (least * pass) + optional + stateBytes

/-- The bytes of the automaton that reads in one direction. -/
def directedBytes (backward : Bool) (node : Node) : Nat :=
  let skip := if node.isAnchored backward then stateBytes
    else forkBytes 2 + stateBytes + readBytes 1
  skip + captureBytes backward + alone (node.size backward) + stateBytes

def bytes (node : Node) : Nat := max (node.directedBytes false) (node.directedBytes true)

end Node

end Pattern
end LogView
