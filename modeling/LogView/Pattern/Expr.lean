/-!
# Patterns as written

The text of a pattern is read into an expression that keeps what was written: literals and how
they were spelled, classes before they are worked out, repetitions, groups and the flags that
groups set.  An expression sits `n` deep when its parts do and a part may not sit deeper than a
limit; items of one sequence, of one choice or of one class lie side by side and count once.
-/

namespace LogView
namespace Pattern

inductive Flag where
  | ignoreCase
  | multiLine
  | dotMatchesNewline
  | swapGreed
  | unicode
  | crlf
  | verbose
  deriving Repr, DecidableEq

/-- The flags that a group sets, in order, and whether each is switched on. -/
abbrev FlagSettings := List (Flag × Bool)

/-- Whether settings switch a flag on or off, if they mention it. -/
def FlagSettings.state? (settings : FlagSettings) (flag : Flag) : Option Bool :=
  (settings.find? fun setting => setting.1 == flag).map (·.2)

/-- A character of a pattern.  One written with two hexadecimal digits may stand for a byte. -/
structure Literal where
  char : Char
  asByte : Bool
  deriving Repr, DecidableEq

/-- The sets that have a letter of their own. -/
inductive ShortClass where
  | digit
  | space
  | word
  deriving Repr, DecidableEq

/-- The ASCII sets that are written by name inside a class. -/
inductive AsciiClass where
  | alnum
  | alpha
  | ascii
  | blank
  | cntrl
  | digit
  | graph
  | lower
  | print
  | punct
  | space
  | upper
  | word
  | xdigit
  deriving Repr, DecidableEq

inductive PropertyQuery where
  | named (name : String)
  | valued (name value : String)
  deriving Repr, DecidableEq

/-- How two sides of a class are put together. -/
inductive SetOperator where
  | intersection
  | difference
  | symmetricDifference
  deriving Repr, DecidableEq

/-- A class between brackets. -/
inductive SetExpr where
  | empty
  | literal (literal : Literal)
  | range (first last : Literal)
  | ascii (name : AsciiClass) (negated : Bool)
  | short (name : ShortClass) (negated : Bool)
  | property (query : PropertyQuery) (negated : Bool)
  | bracketed (negated : Bool) (inner : SetExpr)
  | union (left right : SetExpr)
  | combined (operator : SetOperator) (left right : SetExpr)
  deriving Repr, DecidableEq

/-- A condition on a place between two characters, as written. -/
inductive Mark where
  | lineStart
  | lineEnd
  | textStart
  | textEnd
  | wordBoundary
  | notWordBoundary
  | wordStart
  | wordEnd
  | wordStartHalf
  | wordEndHalf
  deriving Repr, DecidableEq

/-- A pattern as written.  A group without settings captures what it matches. -/
inductive Expr where
  | empty
  | flags (settings : FlagSettings)
  | literal (literal : Literal)
  | dot
  | mark (mark : Mark)
  | short (name : ShortClass) (negated : Bool)
  | property (query : PropertyQuery) (negated : Bool)
  | bracketed (negated : Bool) (inner : SetExpr)
  | repeated (body : Expr) (least : Nat) (most : Option Nat) (greedy : Bool)
  | group (settings : Option FlagSettings) (body : Expr)
  | seq (left right : Expr)
  | choice (left right : Expr)
  deriving Repr, DecidableEq

/-- How deep a class sits, `inside` telling whether it continues a union. -/
def SetExpr.depth (inside : Bool) : SetExpr → Nat
  | .bracketed _ inner => inner.depth false + 1
  | .union left right => max (left.depth true) (right.depth false) + (if inside then 0 else 1)
  | .combined _ left right => max (left.depth false) (right.depth false) + 1
  | _ => 0

/-- What an expression continues. -/
inductive Continues where
  | nothing
  | sequence
  | choice
  deriving Repr, DecidableEq

def Expr.depth (context : Continues) : Expr → Nat
  | .bracketed _ inner => inner.depth false + 1
  | .repeated body _ _ _ => body.depth .nothing + 1
  | .group _ body => body.depth .nothing + 1
  | .seq left right =>
    max (left.depth .sequence) (right.depth .nothing) + (if context = .sequence then 0 else 1)
  | .choice left right =>
    max (left.depth .choice) (right.depth .nothing) + (if context = .choice then 0 else 1)
  | _ => 0

def Expr.ofItems : List Expr → Expr
  | [] => .empty
  | first :: rest => rest.foldl .seq first

def Expr.ofAlternatives : List Expr → Expr
  | [] => .empty
  | first :: rest => rest.foldl .choice first

/-- The members of a union side by side. -/
def SetExpr.ofItems : List SetExpr → SetExpr
  | [] => .empty
  | first :: rest => rest.foldl .union first

end Pattern
end LogView
