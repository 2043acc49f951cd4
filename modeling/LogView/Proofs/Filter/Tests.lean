import LogView.Filter.Run
import Mathlib.Tactic.SplitIfs

/-!
# The tests that rules make

Compiling rules sorts them without reordering them: rules that ask for something and rules that
bar something make the two lists of tests, in their own order, and every test carries the join of
its rule.
-/

namespace LogView

/-- The test of a rule, if it says something and its pattern is not refused. -/
def Rule.test? (rule : Rule) : Option Predicate := rule.compile.toOption.join

/-- What is reported of a rule whose pattern is refused. -/
def Rule.refusal? (rule : Rule) : Option RefusedPattern :=
  match rule.compile with
  | .error refused => some refused
  | .ok _ => none

/-- Whether a rule makes a test that a text passes. -/
def Rule.passes (rule : Rule) (text : String) : Bool :=
  rule.test?.any fun test => test.accepts text

/-- The rules that ask for something and make a test. -/
def askingRules (rules : List Rule) : List Rule :=
  rules.filter fun rule => rule.kind.asks && rule.test?.isSome

/-- The rules that bar something and make a test. -/
def barringRules (rules : List Rule) : List Rule :=
  rules.filter fun rule => !rule.kind.asks && rule.test?.isSome

theorem Rule.test?_of_compile {rule : Rule} {made : Option Predicate}
    (compiled : rule.compile = .ok made) : rule.test? = made := by
  simp [test?, compiled, Except.toOption]

theorem Rule.test?_of_refused {rule : Rule} {refused : RefusedPattern}
    (compiled : rule.compile = .error refused) : rule.test? = none := by
  simp [test?, compiled, Except.toOption]

theorem Rule.compile_some {rule : Rule} {test : Predicate}
    (compiled : rule.compile = .ok (some test)) :
    test.kind = rule.kind ∧ test.join = rule.join := by
  unfold compile at compiled
  split_ifs at compiled
  · cases compiled
  · split at compiled
    · cases compiled
      exact ⟨rfl, rfl⟩
    · cases compiled

theorem Rule.compile_eq_none {rule : Rule} : rule.compile = .ok none ↔ rule.isBlank = true := by
  unfold compile
  split_ifs with blank
  · simp [blank]
  · split <;> simp [blank]

theorem Rule.isBlank_eq_false {rule : Rule} (compiled : rule.compile ≠ .ok none) :
    rule.isBlank = false := by
  simpa [compile_eq_none] using compiled

theorem Rule.compile_of_test? {rule : Rule} {test : Predicate} (made : rule.test? = some test) :
    rule.compile = .ok (some test) := by
  cases compiled : rule.compile with
  | error refused => simp [test?_of_refused compiled] at made
  | ok other =>
    rw [test?_of_compile compiled] at made
    rw [made]

theorem Rule.compile_of_refusal? {rule : Rule} {refused : RefusedPattern}
    (refusal : rule.refusal? = some refused) : rule.compile = .error refused := by
  unfold refusal? at refusal
  split at refusal
  · next compiled =>
    cases refusal
    exact compiled
  · cases refusal

theorem Rule.pattern_of_refused {rule : Rule} {refused : RefusedPattern}
    (compiled : rule.compile = .error refused) : refused.pattern = rule.trimmed := by
  unfold compile at compiled
  split_ifs at compiled
  split at compiled <;> cases compiled
  rfl

theorem Rule.passes_of_test? {rule : Rule} {test : Predicate} (made : rule.test? = some test)
    (text : String) : rule.passes text = test.accepts text := by
  simp [passes, made]

theorem Rule.compile_with_join (rule : Rule) (join : Option Join) :
    Rule.compile { rule with join := join } =
      rule.compile.map fun made => made.map fun test => { test with join := join } := by
  have blank : Rule.isBlank { rule with join := join } = rule.isBlank := rfl
  have trimmed : Rule.trimmed { rule with join := join } = rule.trimmed := rfl
  unfold compile
  simp only [blank, trimmed]
  split_ifs
  · rfl
  · split <;> rfl

theorem askingRules_append (rules more : List Rule) :
    askingRules (rules ++ more) = askingRules rules ++ askingRules more :=
  List.filter_append ..

theorem barringRules_append (rules more : List Rule) :
    barringRules (rules ++ more) = barringRules rules ++ barringRules more :=
  List.filter_append ..

theorem mem_askingRules {rules : List Rule} {rule : Rule} :
    rule ∈ askingRules rules ↔ rule ∈ rules ∧ rule.kind.asks = true ∧ rule.test?.isSome = true := by
  simp [askingRules]

theorem mem_barringRules {rules : List Rule} {rule : Rule} :
    rule ∈ barringRules rules ↔
      rule ∈ rules ∧ rule.kind.asks = false ∧ rule.test?.isSome = true := by
  simp [barringRules]

namespace Tests

theorem ofRules_cons (rule : Rule) (rules : List Rule) :
    ofRules (rule :: rules) = add rule (ofRules rules) := by
  unfold ofRules
  rw [List.foldr_cons]

theorem ofRules_eq (rules : List Rule) :
    ofRules rules =
      ⟨(askingRules rules).filterMap Rule.test?, (barringRules rules).filterMap Rule.test?,
        rules.filterMap Rule.refusal?, rules.countP fun rule => !rule.isBlank⟩ := by
  induction rules with
  | nil => rfl
  | cons rule rules ih =>
    rw [ofRules_cons, ih]
    unfold add
    cases compiled : rule.compile with
    | error refused =>
      have active : rule.isBlank = false := Rule.isBlank_eq_false (by simp [compiled])
      have test := Rule.test?_of_refused compiled
      simp [askingRules, barringRules, Rule.refusal?, compiled, test, active]
    | ok made =>
      have test := Rule.test?_of_compile compiled
      cases made with
      | none =>
        have blank := Rule.compile_eq_none.mp compiled
        simp [askingRules, barringRules, Rule.refusal?, compiled, test, blank]
      | some made =>
        have active : rule.isBlank = false := Rule.isBlank_eq_false (by simp [compiled])
        have kind := (Rule.compile_some compiled).1
        cases asks : rule.kind.asks <;>
          simp [askingRules, barringRules, Rule.refusal?, compiled, test, active, kind, asks]

end Tests

theorem evaluate_kept {lines : List LogLine} {rules : List Rule}
    (sound : (evaluate lines rules).failed = false) :
    (evaluate lines rules).kept =
      lines.filter fun line => (Tests.ofRules rules).accepts line.text := by
  unfold evaluate at sound ⊢
  dsimp only at sound ⊢
  split_ifs at sound ⊢ with failed empty
  · have testless : (Tests.ofRules rules).asking = [] ∧ (Tests.ofRules rules).barring = [] := by
      simpa [Tests.isEmpty, Tests.count] using empty
    have all : ∀ line, (Tests.ofRules rules).accepts line = true := by
      simp [Tests.accepts, Tests.asked, testless]
    exact (List.filter_eq_self.mpr fun line _ => all line.text).symm
  · rfl

theorem kept_sublist (lines : List LogLine) (rules : List Rule) :
    (evaluate lines rules).kept.Sublist lines := by
  unfold evaluate
  dsimp only
  split_ifs
  · exact List.nil_sublist lines
  · exact List.Sublist.refl lines
  · exact List.filter_sublist

theorem Run.kept_ofRules (lines : List LogLine) (rules : List Rule) :
    (Run.ofRules lines rules).kept = (evaluate lines rules).kept := by
  unfold ofRules
  dsimp only
  cases (evaluate lines rules).failed with
  | true => rfl
  | false => cases LogView.highlight rules <;> rfl

end LogView
