import LogView.Document
import LogView.Filter.Highlight

/-!
# Filtering lines

The rules that ask for something are joined from left to right, each by its own join; the first
of them joins nothing.  Every rule that bars something has to hold beside them.  Rules whose
pattern is refused are left out, but if every rule that says something is refused, the run has
failed and keeps no line.
-/

namespace LogView

/-- The tests that rules make: those that ask, those that bar, and what was refused. -/
structure Tests where
  asking : List Predicate
  barring : List Predicate
  refused : List RefusedPattern
  /-- How many rules say something. -/
  active : Nat

namespace Tests

def empty : Tests := ⟨[], [], [], 0⟩

/-- Adds a rule in front of the tests of the rules after it. -/
def add (rule : Rule) (tests : Tests) : Tests :=
  match rule.compile with
  | .ok none => tests
  | .ok (some test) =>
    if test.kind.asks then
      { tests with asking := test :: tests.asking, active := tests.active + 1 }
    else { tests with barring := test :: tests.barring, active := tests.active + 1 }
  | .error refused =>
    { tests with refused := refused :: tests.refused, active := tests.active + 1 }

def ofRules (rules : List Rule) : Tests := rules.foldr add empty

/-- How many rules made a test. -/
def count (tests : Tests) : Nat := tests.asking.length + tests.barring.length

def isEmpty (tests : Tests) : Bool := tests.count == 0

/-- Some rule says something, and none made a test. -/
def isFailed (tests : Tests) : Bool := tests.active != 0 && tests.isEmpty

/-- Joins a test to the outcome of those before it. -/
def joinWith (line : String) (outcome : Bool) (test : Predicate) : Bool :=
  match test.join with
  | some .or => outcome || test.accepts line
  | _ => outcome && test.accepts line

/-- Whether what is asked for is there. -/
def asked (tests : Tests) (line : String) : Bool :=
  match tests.asking with
  | [] => true
  | first :: rest => rest.foldl (joinWith line) (first.accepts line)

def accepts (tests : Tests) (line : String) : Bool :=
  tests.asked line && tests.barring.all fun test => test.accepts line

end Tests

/-- The lines that rules keep, what was refused, and whether the run failed. -/
structure Evaluation where
  kept : List LogLine
  refused : List RefusedPattern
  failed : Bool
  deriving Repr, DecidableEq

def evaluate (lines : List LogLine) (rules : List Rule) : Evaluation :=
  let tests := Tests.ofRules rules
  if tests.isFailed then ⟨[], tests.refused, true⟩
  else if tests.isEmpty then ⟨lines, tests.refused, false⟩
  else ⟨lines.filter fun line => tests.accepts line.text, tests.refused, false⟩

structure Run where
  kept : List LogLine
  highlight : Option Pattern
  refused : List RefusedPattern
  failed : Bool

namespace Run

def idle : Run := ⟨[], none, [], false⟩

/-- What was refused, in one line. -/
def errorMessage? (run : Run) : Option String :=
  if run.refused.isEmpty then none
  else some (String.intercalate "; " (run.refused.map RefusedPattern.message))

/--
Filters lines.  A highlight that cannot be made is reported only if every rule made its test.
-/
def ofRules (lines : List LogLine) (rules : List Rule) : Run :=
  let evaluation := evaluate lines rules
  if evaluation.failed then ⟨evaluation.kept, none, evaluation.refused, true⟩
  else
    match LogView.highlight rules with
    | .ok highlight => ⟨evaluation.kept, highlight, evaluation.refused, false⟩
    | .error refused =>
      ⟨evaluation.kept, none,
        if evaluation.refused.isEmpty then [refused] else evaluation.refused, false⟩

end Run

end LogView
