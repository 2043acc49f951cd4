import LogView.Proofs.Filter.Tests
import LogView.Proofs.Rule.List

/-!
# Filterings that fail

A filtering fails exactly if some rule says something and the pattern of every such rule is refused.
There is then a message that tells what was refused.
-/

namespace LogView

/-- Some rule says something, and every rule that does is refused. -/
def AllRefused (rules : List Rule) : Prop :=
  (∃ rule ∈ rules, rule.isBlank = false) ∧
    ∀ rule ∈ rules, rule.isBlank = false → ∃ refused, rule.compile = .error refused

theorem Rule.test?_eq_none {rule : Rule} :
    rule.test? = none ↔ (rule.isBlank = false → ∃ refused, rule.compile = .error refused) := by
  cases compiled : rule.compile with
  | error refused => simp [test?_of_refused compiled]
  | ok made =>
    rw [test?_of_compile compiled]
    cases made with
    | none => simp [compile_eq_none.mp compiled]
    | some test =>
      have shown : rule.isBlank = false := isBlank_eq_false (by simp [compiled])
      simp [shown]

namespace Tests

theorem isEmpty_ofRules {rules : List Rule} :
    (ofRules rules).isEmpty = true ↔ ∀ rule ∈ rules, rule.test? = none := by
  rw [ofRules_eq]
  simp only [isEmpty, count, beq_iff_eq, Nat.add_eq_zero_iff, List.length_eq_zero_iff,
    List.filterMap_eq_nil_iff]
  constructor
  · rintro ⟨asking, barring⟩ rule mem
    cases made : rule.test? with
    | none => rfl
    | some test =>
      cases asks : rule.kind.asks with
      | true => exact made ▸ asking rule (mem_askingRules.mpr ⟨mem, asks, by simp [made]⟩)
      | false => exact made ▸ barring rule (mem_barringRules.mpr ⟨mem, asks, by simp [made]⟩)
  · intro untested
    exact ⟨fun rule mem => untested rule (mem_askingRules.mp mem).1,
      fun rule mem => untested rule (mem_barringRules.mp mem).1⟩

theorem isFailed_ofRules {rules : List Rule} :
    (ofRules rules).isFailed = true ↔ AllRefused rules := by
  have active : ((ofRules rules).active != 0) = true ↔ ∃ rule ∈ rules, rule.isBlank = false := by
    rw [ofRules_eq, bne_iff_ne, ← Nat.pos_iff_ne_zero, List.countP_pos_iff]
    simp
  rw [isFailed, Bool.and_eq_true, active, isEmpty_ofRules]
  simp only [Rule.test?_eq_none]
  rfl

end Tests

theorem Rule.isSome_refusal? {rule : Rule} :
    rule.refusal?.isSome = true ↔ ∃ refused, rule.compile = .error refused := by
  unfold refusal?
  cases rule.compile <;> simp

theorem evaluate_failed (lines : List LogLine) (rules : List Rule) :
    (evaluate lines rules).failed = true ↔ AllRefused rules := by
  rw [← Tests.isFailed_ofRules]
  unfold evaluate
  dsimp only
  split_ifs with failed empty
  · simp [failed]
  · simp [failed]
  · simp [failed]

theorem Tests.refused_ofRules (rules : List Rule) :
    (Tests.ofRules rules).refused = rules.filterMap Rule.refusal? := by
  rw [Tests.ofRules_eq]

theorem evaluate_refused (lines : List LogLine) (rules : List Rule) :
    (evaluate lines rules).refused = rules.filterMap Rule.refusal? := by
  rw [← Tests.refused_ofRules]
  unfold evaluate
  dsimp only
  split_ifs <;> rfl

theorem kept_of_failed {lines : List LogLine} {rules : List Rule}
    (failed : (evaluate lines rules).failed = true) : (evaluate lines rules).kept = [] := by
  unfold evaluate at failed ⊢
  dsimp only at failed ⊢
  split_ifs at failed ⊢
  rfl

namespace AllRefused

variable {rules : List Rule} (refused : AllRefused rules)
include refused

theorem refusals_ne_nil : rules.filterMap Rule.refusal? ≠ [] := by
  obtain ⟨⟨rule, mem, active⟩, all⟩ := refused
  obtain ⟨cause, compiled⟩ := all rule mem active
  have told : cause ∈ rules.filterMap Rule.refusal? :=
    List.mem_filterMap.mpr ⟨rule, mem, by simp [Rule.refusal?, compiled]⟩
  exact List.ne_nil_of_mem told

end AllRefused

namespace Run

theorem errorMessage?_eq_none {run : Run} :
    run.errorMessage? = none ↔ run.refused = [] := by
  unfold errorMessage?
  cases run.refused <;> simp

theorem failed_eq (lines : List LogLine) (rules : List Rule) :
    (Run.ofRules lines rules).failed = (evaluate lines rules).failed := by
  unfold ofRules
  dsimp only
  cases (evaluate lines rules).failed with
  | true => rfl
  | false => cases LogView.highlight rules <;> rfl

theorem highlight_eq (lines : List LogLine) (rules : List Rule) :
    (Run.ofRules lines rules).highlight =
      if (evaluate lines rules).failed then none else (LogView.highlight rules).toOption.join := by
  unfold ofRules
  dsimp only
  cases (evaluate lines rules).failed with
  | true => rfl
  | false => cases LogView.highlight rules <;> rfl

theorem ofRules_of_failed {lines : List LogLine} {rules : List Rule}
    (failed : (evaluate lines rules).failed = true) :
    Run.ofRules lines rules = ⟨[], none, (evaluate lines rules).refused, true⟩ := by
  unfold ofRules
  dsimp only
  rw [failed, kept_of_failed failed]
  rfl

theorem ofRules_of_highlight {lines : List LogLine} {rules : List Rule}
    (sound : (evaluate lines rules).failed = false) {highlight : Option Pattern}
    (made : LogView.highlight rules = .ok highlight) :
    Run.ofRules lines rules =
      ⟨(evaluate lines rules).kept, highlight, (evaluate lines rules).refused, false⟩ := by
  unfold ofRules
  dsimp only
  rw [sound, made]
  rfl

end Run

theorem Rule.refusal?_with_join (rule : Rule) (join : Option Join) :
    refusal? { rule with join := join } = rule.refusal? := by
  unfold refusal?
  rw [compile_with_join]
  cases rule.compile <;> rfl

/-- Whether all rules are refused depends on what they test, not on their order or their joins. -/
theorem allRefused_congr {rules others : List Rule}
    (same : (rules.map Rule.content).Perm (others.map Rule.content)) :
    AllRefused rules ↔ AllRefused others := by
  have told : ∀ rules : List Rule, AllRefused rules ↔
      (∃ told ∈ rules.map fun rule => (rule.isBlank, rule.refusal?.isSome), told.1 = false) ∧
        ∀ told ∈ rules.map fun rule => (rule.isBlank, rule.refusal?.isSome),
          told.1 = false → told.2 = true := by
    intro rules
    simp [AllRefused, ← Rule.isSome_refusal?]
  have alike : (rules.map fun rule => (rule.isBlank, rule.refusal?.isSome)).Perm
      (others.map fun rule => (rule.isBlank, rule.refusal?.isSome)) := by
    refine Rule.map_perm_of_content ?_ same
    intro rule join
    rw [Rule.refusal?_with_join]
    rfl
  rw [told, told]
  simp only [alike.mem_iff]

theorem allRefused_rejoin {rules : List Rule} :
    AllRefused (RuleList.rejoin rules) ↔ AllRefused rules :=
  allRefused_congr (.of_eq (RuleList.map_content_rejoin rules))

end LogView
