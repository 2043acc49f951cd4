import LogView.Pattern.CharSet
import LogView.Unicode.Property

/-!
# Patterns as searched

A node says what a pattern matches, with every flag worked out.  A line is searched place by
place: place `i` lies before its character number `i`, so a line of `n` characters has the places
`0` to `n`.
-/

namespace LogView
namespace Pattern

abbrev Line := Array Char

/-- How a place lies to the words beside it. -/
inductive WordEdge where
  | boundary
  | notBoundary
  | wordStart
  | wordEnd
  | wordStartHalf
  | wordEndHalf
  deriving Repr, DecidableEq

inductive Condition where
  | textStart
  | textEnd
  | lineStart
  | lineEnd
  | crlfLineStart
  | crlfLineEnd
  | word (edge : WordEdge) (unicode : Bool)
  deriving Repr, DecidableEq

def isAsciiWord (c : Char) : Bool := c.isAlphanum || c == '_'

/-- The characters of words, of all scripts or of ASCII alone. -/
def isWord (unicode : Bool) (c : Char) : Bool :=
  isAsciiWord c || (unicode && 0x80 ≤ c.toNat && Unicode.wordTable.contains c)

def charBefore (chars : Line) (i : Nat) : Option Char :=
  if i = 0 then none else chars[i - 1]?

def charAfter (chars : Line) (i : Nat) : Option Char := chars[i]?

def WordEdge.holds (before after : Bool) : WordEdge → Bool
  | .boundary => before != after
  | .notBoundary => before == after
  | .wordStart => !before && after
  | .wordEnd => before && !after
  | .wordStartHalf => !before
  | .wordEndHalf => !after

def Condition.holds (line : Line) (i : Nat) : Condition → Bool
  | .textStart => i == 0
  | .textEnd => i == line.size
  | .lineStart => i == 0 || charBefore line i == some '\n'
  | .lineEnd => i == line.size || charAfter line i == some '\n'
  | .crlfLineStart =>
    i == 0 || charBefore line i == some '\n' ||
      (charBefore line i == some '\r' && charAfter line i != some '\n')
  | .crlfLineEnd =>
    i == line.size || charAfter line i == some '\r' ||
      (charAfter line i == some '\n' && charBefore line i != some '\r')
  | .word edge unicode =>
    edge.holds ((charBefore line i).any (isWord unicode)) ((charAfter line i).any (isWord unicode))

/-- What a pattern matches, and which of it is captured. -/
inductive Node where
  | empty
  | chars (set : CharSet)
  | place (condition : Condition)
  | seq (left right : Node)
  | choice (preferred other : Node)
  | capture (body : Node)
  | repeated (body : Node) (least : Nat) (most : Option Nat) (greedy : Bool)

namespace Node

/-- Whether a node matches nothing but places. -/
def takesNothing : Node → Bool
  | .empty => true
  | .chars _ => false
  | .place _ => true
  | .seq left right => left.takesNothing && right.takesNothing
  | .choice left right => left.takesNothing && right.takesNothing
  | .capture body => body.takesNothing
  | .repeated body _ most _ => body.takesNothing || most == some 0

/-- Whether a node may match without taking a character. -/
def mayTakeNothing : Node → Bool
  | .empty => true
  | .chars _ => false
  | .place _ => true
  | .seq left right => left.mayTakeNothing && right.mayTakeNothing
  | .choice left right => left.mayTakeNothing || right.mayTakeNothing
  | .capture body => body.mayTakeNothing
  | .repeated body least _ _ => least == 0 || body.mayTakeNothing

def repeats : Node → Bool
  | .empty => false
  | .chars _ => false
  | .place _ => false
  | .seq left right => left.repeats || right.repeats
  | .choice left right => left.repeats || right.repeats
  | .capture body => body.repeats
  | .repeated _ _ _ _ => true

/-- A repetition; one of a node that takes nothing need not be tried twice. -/
def repetition (body : Node) (least : Nat) (most : Option Nat) (greedy : Bool) : Node :=
  let (least, most) :=
    if body.takesNothing then (min least 1, some (min (most.getD 1) 1)) else (least, most)
  if most = some 0 then .empty
  else if least = 1 && most = some 1 then body
  else .repeated body least most greedy

end Node

end Pattern
end LogView
