import LogView.Proofs.Filter.Tests
import Mathlib.Data.Fintype.Basic
import Mathlib.Data.Fin.Tuple.Basic

/-!
# Which lines rules keep

Joining from left to right comes to this: an `or` opens a new alternative, and what counts is
whether the line passes some rule that opens one and every later rule up to the end that opens
none.  The first rule opens an alternative whatever its join says.
-/

namespace LogView

/--
Whether a text has what rules ask for: it passes a rule that opens an alternative, and every rule
after it that opens none.
-/
def Granted (asking : List Rule) (text : String) : Prop :=
  asking = [] ∨
    ∃ k : Fin asking.length, (k.val = 0 ∨ asking[k].join = some .or) ∧
      asking[k].passes text = true ∧
      ∀ j : Fin asking.length, k < j → asking[j].join ≠ some .or → asking[j].passes text = true

instance (asking : List Rule) (text : String) : Decidable (Granted asking text) :=
  inferInstanceAs (Decidable (_ ∨ _))

/-- Whether rules keep a line with a text. -/
def Keeps (rules : List Rule) (text : String) : Prop :=
  Granted (askingRules rules) text ∧ ∀ rule ∈ barringRules rules, rule.passes text = true

instance (rules : List Rule) (text : String) : Decidable (Keeps rules text) :=
  inferInstanceAs (Decidable (_ ∧ _))

/-- Whether a text passes all rules that open no alternative. -/
def Unbroken (text : String) (rules : List Rule) : Prop :=
  ∀ j : Fin rules.length, rules[j].join ≠ some .or → rules[j].passes text = true

/-- Whether a text passes a rule that opens an alternative and all that follows on it. -/
def Reopened (text : String) (rules : List Rule) : Prop :=
  ∃ k : Fin rules.length, rules[k].join = some .or ∧ rules[k].passes text = true ∧
    ∀ j : Fin rules.length, k < j → rules[j].join ≠ some .or → rules[j].passes text = true

theorem unbroken_cons (text : String) (rule : Rule) (rules : List Rule) :
    Unbroken text (rule :: rules) ↔
      (rule.join ≠ some .or → rule.passes text = true) ∧ Unbroken text rules := by
  unfold Unbroken
  exact Fin.forall_fin_succ

theorem after_first (text : String) (rule : Rule) (rules : List Rule) :
    (∀ j : Fin (rule :: rules).length, ⟨0, Nat.succ_pos _⟩ < j →
      (rule :: rules)[j].join ≠ some .or → (rule :: rules)[j].passes text = true) ↔
      Unbroken text rules := by
  refine Fin.forall_fin_succ.trans ⟨?_, ?_⟩
  · intro later j
    exact later.2 j (Fin.succ_pos j)
  · intro unbroken
    exact ⟨fun absurd => (lt_irrefl _ absurd).elim, fun j _ => unbroken j⟩

theorem after_later (text : String) (rule : Rule) (rules : List Rule) (k : Fin rules.length) :
    (∀ j : Fin (rule :: rules).length, k.succ < j →
      (rule :: rules)[j].join ≠ some .or → (rule :: rules)[j].passes text = true) ↔
      ∀ j : Fin rules.length, k < j → rules[j].join ≠ some .or → rules[j].passes text = true := by
  refine Fin.forall_fin_succ.trans ⟨?_, ?_⟩
  · intro later j after
    exact later.2 j (Fin.succ_lt_succ_iff.mpr after)
  · intro later
    exact ⟨fun absurd => (Fin.not_lt_zero _ absurd).elim,
      fun j after => later j (Fin.succ_lt_succ_iff.mp after)⟩

theorem reopened_cons (text : String) (rule : Rule) (rules : List Rule) :
    Reopened text (rule :: rules) ↔
      (rule.join = some .or ∧ rule.passes text = true ∧ Unbroken text rules) ∨
        Reopened text rules := by
  refine Fin.exists_fin_succ.trans (or_congr ?_ ?_)
  · exact and_congr_right' (and_congr_right' (after_first text rule rules))
  · refine exists_congr fun k => ?_
    exact and_congr_right' (and_congr_right' (after_later text rule rules k))

theorem granted_cons (text : String) (rule : Rule) (rules : List Rule) :
    Granted (rule :: rules) text ↔
      (rule.passes text = true ∧ Unbroken text rules) ∨ Reopened text rules := by
  refine (or_iff_right (List.cons_ne_nil rule rules)).trans ?_
  refine Fin.exists_fin_succ.trans (or_congr ?_ ?_)
  · refine (and_iff_right (Or.inl rfl)).trans ?_
    exact and_congr_right' (after_first text rule rules)
  · refine exists_congr fun k => and_congr ?_ (and_congr_right' (after_later text rule rules k))
    exact or_iff_right (Nat.succ_ne_zero k.val)

/-- Joins a rule to the outcome of those before it. -/
def joinRule (text : String) (outcome : Bool) (rule : Rule) : Bool :=
  match rule.join with
  | some .or => outcome || rule.passes text
  | _ => outcome && rule.passes text

/-- Joining from left to right keeps an outcome unless it is broken, and reopens it at an `or`. -/
theorem foldl_joinRule (text : String) (rules : List Rule) (outcome : Bool) :
    rules.foldl (joinRule text) outcome = true ↔
      (outcome = true ∧ Unbroken text rules) ∨ Reopened text rules := by
  induction rules generalizing outcome with
  | nil => simp [Unbroken, Reopened]
  | cons rule rules ih =>
    rw [List.foldl_cons, ih, unbroken_cons, reopened_cons]
    by_cases opens : rule.join = some .or
    · have step : joinRule text outcome rule = (outcome || rule.passes text) := by
        simp [joinRule, opens]
      rw [step]
      cases outcome <;> cases rule.passes text <;> simp [opens]
    · have step : joinRule text outcome rule = (outcome && rule.passes text) := by
        simp [joinRule]
      rw [step]
      cases outcome <;> cases rule.passes text <;> simp [opens]

theorem joinWith_of_test? {rule : Rule} {test : Predicate} (made : rule.test? = some test)
    (text : String) (outcome : Bool) :
    Tests.joinWith text outcome test = joinRule text outcome rule := by
  have join := (Rule.compile_some (Rule.compile_of_test? made)).2
  unfold Tests.joinWith joinRule
  rewrite [join, Rule.passes_of_test? made]
  rfl

theorem foldl_joinWith (text : String) {rules : List Rule}
    (made : ∀ rule ∈ rules, rule.test?.isSome = true) (outcome : Bool) :
    (rules.filterMap Rule.test?).foldl (Tests.joinWith text) outcome =
      rules.foldl (joinRule text) outcome := by
  induction rules generalizing outcome with
  | nil => rfl
  | cons rule rules ih =>
    obtain ⟨test, first⟩ := Option.isSome_iff_exists.mp (made rule List.mem_cons_self)
    have rest := ih fun later mem => made later (List.mem_cons_of_mem _ mem)
    rw [List.filterMap_cons_some first, List.foldl_cons, List.foldl_cons,
      joinWith_of_test? first, rest]

namespace Tests

theorem asked_ofRules (rules : List Rule) (text : String) :
    (ofRules rules).asked text = true ↔ Granted (askingRules rules) text := by
  have made : ∀ rule ∈ askingRules rules, rule.test?.isSome = true := by
    intro rule mem
    exact (mem_askingRules.mp mem).2.2
  unfold asked
  rw [ofRules_eq]
  dsimp only
  cases asking : askingRules rules with
  | nil => simp [Granted]
  | cons rule rest =>
    rw [asking] at made
    obtain ⟨test, first⟩ := Option.isSome_iff_exists.mp (made rule List.mem_cons_self)
    have later : ∀ rule ∈ rest, rule.test?.isSome = true := by
      intro other mem
      exact made other (List.mem_cons_of_mem _ mem)
    rw [List.filterMap_cons_some first, granted_cons, ← foldl_joinRule,
      Rule.passes_of_test? first]
    dsimp only
    rw [foldl_joinWith text later]

theorem barred_ofRules (rules : List Rule) (text : String) :
    ((ofRules rules).barring.all fun test => test.accepts text) = true ↔
      ∀ rule ∈ barringRules rules, rule.passes text = true := by
  rw [ofRules_eq, List.all_eq_true]
  constructor
  · intro all rule mem
    obtain ⟨test, made⟩ := Option.isSome_iff_exists.mp (mem_barringRules.mp mem).2.2
    rw [Rule.passes_of_test? made]
    exact all test (List.mem_filterMap.mpr ⟨rule, mem, made⟩)
  · intro all test mem
    obtain ⟨rule, mem, made⟩ := List.mem_filterMap.mp mem
    rw [← Rule.passes_of_test? made]
    exact all rule mem

theorem accepts_ofRules (rules : List Rule) (text : String) :
    (ofRules rules).accepts text = true ↔ Keeps rules text := by
  unfold accepts Keeps
  rw [Bool.and_eq_true, asked_ofRules, barred_ofRules]

/-- The join of the first test that asks for something is not looked at. -/
theorem accepts_with_first_join (tests : Tests) {first : Predicate} {rest : List Predicate}
    (asking : tests.asking = first :: rest) (join : Option Join) (text : String) :
    accepts { tests with asking := { first with join := join } :: rest } text =
      tests.accepts text := by
  unfold accepts asked
  rw [asking]
  rfl

theorem ofRules_with_first_join {before after : List Rule} {rule : Rule} {test : Predicate}
    (first : askingRules before = []) (asks : rule.kind.asks = true)
    (made : rule.test? = some test) (join : Option Join) :
    ofRules (before ++ { rule with join := join } :: after) =
      { ofRules (before ++ rule :: after) with
        asking := { test with join := join } :: (ofRules after).asking } := by
  have compiled := Rule.compile_of_test? made
  have compiled' := Rule.compile_with_join rule join
  rw [compiled] at compiled'
  have made' := Rule.test?_of_compile compiled'
  have blank : Rule.isBlank { rule with join := join } = rule.isBlank := rfl
  simp only [ofRules_eq, askingRules_append, barringRules_append, first]
  simp [askingRules, barringRules, Rule.refusal?, asks, made, made', compiled, compiled', blank,
    Except.map, List.countP_cons]

theorem asking_of_first {before : List Rule} {rule : Rule} {test : Predicate}
    (first : askingRules before = []) (asks : rule.kind.asks = true)
    (made : rule.test? = some test) (after : List Rule) :
    (ofRules (before ++ rule :: after)).asking = test :: (ofRules after).asking := by
  simp only [ofRules_eq, askingRules_append, first]
  simp [askingRules, asks, made]

end Tests

/-- Which tests there are, and not how they join, decides whether an evaluation fails. -/
theorem evaluate_with_first_join (lines : List LogLine) {before after : List Rule} {rule : Rule}
    (first : askingRules before = []) (asks : rule.kind.asks = true)
    (made : rule.test?.isSome = true) (join : Option Join) :
    evaluate lines (before ++ { rule with join := join } :: after) =
      evaluate lines (before ++ rule :: after) := by
  obtain ⟨test, made⟩ := Option.isSome_iff_exists.mp made
  have asking := Tests.asking_of_first first asks made after
  have accepts := Tests.accepts_with_first_join _ asking join
  unfold evaluate
  rw [Tests.ofRules_with_first_join first asks made]
  simp only [accepts, Tests.isFailed, Tests.isEmpty, Tests.count, asking, List.length_cons]

/--
An evaluation that has not failed keeps the lines that its rules ask for and do not bar, in order
and as they are.  The join of the first rule that asks, wherever it stands, takes no part.
-/
theorem kept_eq_filter_keeps {lines : List LogLine} {rules : List Rule}
    (sound : (evaluate lines rules).failed = false) :
    (evaluate lines rules).kept = lines.filter (fun line => Keeps rules line.text) ∧
      ∀ (before after : List Rule) (rule : Rule), rules = before ++ rule :: after →
        askingRules before = [] → rule ∈ askingRules rules →
        ∀ join, evaluate lines (before ++ { rule with join := join } :: after) =
          evaluate lines rules := by
  constructor
  · rw [evaluate_kept sound]
    refine List.filter_congr fun line _ => ?_
    rw [Bool.eq_iff_iff, decide_eq_true_iff]
    exact Tests.accepts_ofRules rules line.text
  · intro before after rule split first asking join
    obtain ⟨-, asks, made⟩ := mem_askingRules.mp asking
    rw [split]
    exact evaluate_with_first_join lines first asks made join

/-- A join in front of the first rule that asks, here behind one that bars, makes no alternative. -/
theorem kept_behind_barring :
    (evaluate [⟨1, "a"⟩, ⟨2, "b"⟩, ⟨3, "ab"⟩]
        [⟨none, .lacks, "z", false⟩, ⟨some .or, .contains, "a", false⟩]).kept =
      [⟨1, "a"⟩, ⟨2, "b"⟩, ⟨3, "ab"⟩].filter (fun line =>
        Keeps [⟨none, .lacks, "z", false⟩, ⟨some .or, .contains, "a", false⟩] line.text) ∧
    evaluate [⟨1, "a"⟩, ⟨2, "b"⟩, ⟨3, "ab"⟩]
        [⟨none, .lacks, "z", false⟩, ⟨some .and, .contains, "a", false⟩] =
      evaluate [⟨1, "a"⟩, ⟨2, "b"⟩, ⟨3, "ab"⟩]
        [⟨none, .lacks, "z", false⟩, ⟨some .or, .contains, "a", false⟩] := by
  have sound : (evaluate [⟨1, "a"⟩, ⟨2, "b"⟩, ⟨3, "ab"⟩]
      [⟨none, .lacks, "z", false⟩, ⟨some .or, .contains, "a", false⟩]).failed = false := by
    decide +kernel
  have first : askingRules [⟨none, .lacks, "z", false⟩] = [] := by decide +kernel
  have asking : (⟨some .or, .contains, "a", false⟩ : Rule) ∈
      askingRules [⟨none, .lacks, "z", false⟩, ⟨some .or, .contains, "a", false⟩] := by
    decide +kernel
  obtain ⟨kept, joins⟩ := kept_eq_filter_keeps sound
  exact ⟨kept, joins [_] [] _ rfl first asking _⟩

end LogView
