import LogView.Pattern.Basic
import LogView.Rule.Basic

/-!
# Tests

A rule becomes a test by turning its text into a pattern: a regular expression is taken as it
is, any other text stands for itself, held to the start or the end of the line where the kind of
the rule asks for it.  A rule that bars a text accepts the lines in which its pattern is not
found.
-/

namespace LogView

structure RefusedPattern where
  pattern : String
  fault : Pattern.Fault
  deriving Repr, DecidableEq

def RefusedPattern.message (refused : RefusedPattern) : String :=
  "Regex error in '" ++ refused.pattern ++ "': " ++ refused.fault.message

/-- The pattern for a text tested in the way of a kind. -/
def Kind.patternSource (kind : Kind) (text : String) : String :=
  match kind with
  | .regex => text
  | .startsWith => "^" ++ Pattern.quote text
  | .endsWith => Pattern.quote text ++ "$"
  | .contains | .lacks => Pattern.quote text

/-- A rule that is ready to test lines. -/
structure Predicate where
  kind : Kind
  join : Option Join
  pattern : Pattern

namespace Predicate

def accepts (test : Predicate) (line : String) : Bool :=
  if test.kind.asks then test.pattern.isMatch line else !test.pattern.isMatch line

end Predicate

/-- The test that a rule makes.  A blank rule makes none. -/
def Rule.compile (rule : Rule) : Except RefusedPattern (Option Predicate) :=
  if rule.isBlank then .ok none
  else
    match Pattern.ofSource (rule.kind.patternSource rule.trimmed) (!rule.caseSensitive) with
    | .ok pattern => .ok (some ⟨rule.kind, rule.join, pattern⟩)
    | .error fault => .error ⟨rule.trimmed, fault⟩

end LogView
