import LogView.Proofs.Filter.Failure

/-!
# What is told of a run

Every rule that says something makes a test or is told as refused, in the order of the rules, and
there is nothing else to tell of an evaluation.  A run may add one thing: that no highlight could be
made, though every rule made its test.  So a run is silent exactly if every rule made its test and
the highlight, if there is something to mark, was made too.
-/

namespace LogView

/-- Whether a rule says something and makes no test. -/
def Rule.isRefused (rule : Rule) : Bool := !rule.isBlank && rule.test?.isNone

/-- Whether every rule that says something makes a test. -/
def AllMade (rules : List Rule) : Prop :=
  ∀ rule ∈ rules, rule.isBlank = false → ∃ test, rule.compile = .ok (some test)

namespace Rule

variable {rule : Rule}

theorem isRefused_iff : rule.isRefused = true ↔ ∃ refused, rule.compile = .error refused := by
  unfold isRefused
  cases compiled : rule.compile with
  | error refused =>
    have active : rule.isBlank = false := isBlank_eq_false (by simp [compiled])
    simp [active, test?_of_refused compiled]
  | ok made =>
    rw [test?_of_compile compiled]
    cases made with
    | none => simp [compile_eq_none.mp compiled]
    | some test => simp

theorem isSome_refusal?_eq : rule.refusal?.isSome = rule.isRefused := by
  rw [Bool.eq_iff_iff, isSome_refusal?, isRefused_iff]

/-- What is told of rules is told of each one that is refused, in their order. -/
theorem forall₂_refusals (rules : List Rule) :
    List.Forall₂
      (fun rule refused => rule.compile = .error refused ∧ refused.pattern = rule.trimmed)
      (rules.filter isRefused) (rules.filterMap refusal?) := by
  induction rules with
  | nil => exact .nil
  | cons rule rules ih =>
    cases refusal : rule.refusal? with
    | none =>
      have accepted : rule.isRefused = false := by simp [← isSome_refusal?_eq, refusal]
      simpa [accepted, refusal] using ih
    | some refused =>
      have compiled := compile_of_refusal? refusal
      have unmade : rule.isRefused = true := isRefused_iff.mpr ⟨refused, compiled⟩
      rw [List.filter_cons_of_pos unmade, List.filterMap_cons_some refusal]
      exact .cons ⟨compiled, pattern_of_refused compiled⟩ ih

end Rule

theorem allMade_iff {rules : List Rule} :
    AllMade rules ↔ rules.filterMap Rule.refusal? = [] := by
  simp only [AllMade, List.filterMap_eq_nil_iff]
  refine forall₂_congr fun rule _ => ?_
  unfold Rule.refusal?
  cases compiled : rule.compile with
  | error refused =>
    have active : rule.isBlank = false := Rule.isBlank_eq_false (by simp [compiled])
    simp [active]
  | ok made =>
    cases made with
    | none => simp [Rule.compile_eq_none.mp compiled]
    | some test => simp

namespace Tests

theorem active_add (rule : Rule) {tests : Tests}
    (accounted : tests.active = tests.count + tests.refused.length) :
    (add rule tests).active = (add rule tests).count + (add rule tests).refused.length := by
  unfold count at accounted ⊢
  unfold add
  cases rule.compile with
  | error refused =>
    simp only [List.length_cons]
    omega
  | ok made =>
    cases made with
    | none => exact accounted
    | some test =>
      cases asks : test.kind.asks with
      | true =>
        simp only [asks, if_true, List.length_cons]
        omega
      | false =>
        simp only [asks, Bool.false_eq_true, if_false, List.length_cons]
        omega

theorem active_ofRules (rules : List Rule) :
    (ofRules rules).active = (ofRules rules).count + (ofRules rules).refused.length := by
  induction rules with
  | nil => rfl
  | cons rule rules ih =>
    rw [ofRules_cons]
    exact active_add rule ih

end Tests

theorem highlight_eq_none {rules : List Rule} :
    highlight rules = .ok none ↔ ∀ rule ∈ rules, rule.isHighlighted = false := by
  have unmarked : rules.filter Rule.isHighlighted = [] ↔
      ∀ rule ∈ rules, rule.isHighlighted = false := by simp
  rw [← unmarked]
  unfold highlight
  cases rules.filter Rule.isHighlighted with
  | nil => simp
  | cons first rest =>
    dsimp only
    split <;> simp

theorem exists_highlight_iff {rules : List Rule} :
    (∃ made, highlight rules = .ok made) ↔
      (∀ rule ∈ rules, rule.isHighlighted = false) ∨
        ∃ pattern, highlight rules = .ok (some pattern) := by
  rw [← highlight_eq_none]
  constructor
  · rintro ⟨made, known⟩
    cases made with
    | none => exact .inl known
    | some pattern => exact .inr ⟨pattern, known⟩
  · rintro (known | ⟨pattern, known⟩)
    · exact ⟨none, known⟩
    · exact ⟨some pattern, known⟩

namespace Run

variable {rules : List Rule}

theorem not_failed_of_allMade (made : AllMade rules) (lines : List LogLine) :
    (evaluate lines rules).failed = false := by
  rw [Bool.eq_false_iff, Ne, evaluate_failed]
  intro refused
  exact refused.refusals_ne_nil (allMade_iff.mp made)

/-- Where every rule makes its test, a highlight that is refused is all there is to tell. -/
theorem refused_of_highlight (made : AllMade rules) {cause : RefusedPattern}
    (unmade : LogView.highlight rules = .error cause) (lines : List LogLine) :
    (Run.ofRules lines rules).refused = [cause] := by
  have silent : (evaluate lines rules).refused = [] := by
    rw [evaluate_refused]
    exact allMade_iff.mp made
  unfold ofRules
  dsimp only
  rw [not_failed_of_allMade made, unmade, silent]
  rfl

theorem refused_eq (other : ¬ (AllMade rules ∧ ∃ cause, LogView.highlight rules = .error cause))
    (lines : List LogLine) :
    (Run.ofRules lines rules).refused = (evaluate lines rules).refused := by
  cases failed : (evaluate lines rules).failed with
  | true => rw [ofRules_of_failed failed]
  | false =>
    cases known : LogView.highlight rules with
    | ok made => rw [ofRules_of_highlight failed known]
    | error cause =>
      have told : (evaluate lines rules).refused ≠ [] := by
        intro silent
        rw [evaluate_refused] at silent
        exact other ⟨allMade_iff.mpr silent, cause, known⟩
      unfold ofRules
      dsimp only
      rw [failed, known]
      simp [told]

theorem refused_eq_nil (lines : List LogLine) :
    (Run.ofRules lines rules).refused = [] ↔
      AllMade rules ∧ ∃ made, LogView.highlight rules = .ok made := by
  by_cases other : AllMade rules ∧ ∃ cause, LogView.highlight rules = .error cause
  · obtain ⟨made, cause, unmade⟩ := other
    rw [refused_of_highlight made unmade]
    simp [unmade]
  · rw [refused_eq other, evaluate_refused, ← allMade_iff]
    constructor
    · intro made
      refine ⟨made, ?_⟩
      cases known : LogView.highlight rules with
      | ok shown => exact ⟨shown, rfl⟩
      | error cause => exact absurd ⟨made, cause, known⟩ other
    · exact And.left

end Run

/--
Compiling tells of each rule that says something and makes no test, by its text and in order, and
counts the others as tests.  An evaluation fails exactly if some rule says something and all that
do are refused; it then keeps nothing and is not silent.  A run keeps what its evaluation keeps,
fails as it does and tells the same, unless every rule made its test and no highlight can be made:
then it tells that alone.  So it has no message exactly if every rule made its test and the
highlight is made or not asked for.
-/
theorem told_of_rules (rules : List Rule) :
    List.Forall₂
        (fun rule refused => rule.compile = .error refused ∧ refused.pattern = rule.trimmed)
        (rules.filter Rule.isRefused) (Tests.ofRules rules).refused ∧
      (Tests.ofRules rules).active =
        (Tests.ofRules rules).count + (Tests.ofRules rules).refused.length ∧
      ∀ lines : List LogLine,
        (evaluate lines rules).refused = (Tests.ofRules rules).refused ∧
        ((evaluate lines rules).failed = true ↔ AllRefused rules) ∧
        ((evaluate lines rules).failed = true →
          (evaluate lines rules).kept = [] ∧ (evaluate lines rules).refused ≠ []) ∧
        (Run.ofRules lines rules).kept = (evaluate lines rules).kept ∧
        (Run.ofRules lines rules).failed = (evaluate lines rules).failed ∧
        ((evaluate lines rules).refused = [] ↔ AllMade rules) ∧
        (∀ cause, AllMade rules → highlight rules = .error cause →
          (Run.ofRules lines rules).refused = [cause]) ∧
        (¬ (AllMade rules ∧ ∃ cause, highlight rules = .error cause) →
          (Run.ofRules lines rules).refused = (evaluate lines rules).refused) ∧
        ((Run.ofRules lines rules).errorMessage? = none ↔
          AllMade rules ∧ ((∀ rule ∈ rules, rule.isHighlighted = false) ∨
            ∃ pattern, highlight rules = .ok (some pattern))) := by
  have told := Tests.refused_ofRules rules
  refine ⟨told ▸ Rule.forall₂_refusals rules, Tests.active_ofRules rules, fun lines => ?_⟩
  refine ⟨?_, evaluate_failed lines rules, ?_, Run.kept_ofRules lines rules,
    Run.failed_eq lines rules, ?_, ?_, ?_, ?_⟩
  · rw [told, evaluate_refused]
  · intro failed
    rw [evaluate_refused]
    exact ⟨kept_of_failed failed, ((evaluate_failed lines rules).mp failed).refusals_ne_nil⟩
  · rw [evaluate_refused, allMade_iff]
  · intro cause made unmade
    exact Run.refused_of_highlight made unmade lines
  · intro other
    exact Run.refused_eq other lines
  · rw [Run.errorMessage?_eq_none, Run.refused_eq_nil, exists_highlight_iff]

/-- Two rules that are sound alone name the same group, so only their highlight is refused. -/
theorem told_of_doubled_name :
    (∃ cause, highlight [.ofKind .regex "(?P<_>a)", .ofKind .regex "(?P<_>b)"] = .error cause ∧
        (Run.ofRules [⟨1, "a"⟩]
          [.ofKind .regex "(?P<_>a)", .ofKind .regex "(?P<_>b)"]).refused = [cause]) ∧
      (evaluate [⟨1, "a"⟩] [.ofKind .contains " ", .ofKind .regex "("]).failed = true ∧
      (evaluate [⟨1, "a"⟩] [.ofKind .contains " ", .ofKind .regex "("]).kept = [] ∧
      (evaluate [⟨1, "a"⟩] [.ofKind .contains " ", .ofKind .regex "("]).refused ≠ [] := by
  have silent : (evaluate [⟨1, "a"⟩]
      [.ofKind .regex "(?P<_>a)", .ofKind .regex "(?P<_>b)"]).refused = [] := by decide +kernel
  have failed : (evaluate [⟨1, "a"⟩]
      [.ofKind .contains " ", .ofKind .regex "("]).failed = true := by decide +kernel
  have hidden : (highlight
      [.ofKind .regex "(?P<_>a)", .ofKind .regex "(?P<_>b)"]).isOk = false := by decide +kernel
  obtain ⟨-, -, all⟩ := told_of_rules [.ofKind .regex "(?P<_>a)", .ofKind .regex "(?P<_>b)"]
  obtain ⟨-, -, -, -, -, made, doubled, -, -⟩ := all [⟨1, "a"⟩]
  obtain ⟨-, -, fails, -⟩ :=
    (told_of_rules [.ofKind .contains " ", .ofKind .regex "("]).2.2 [⟨1, "a"⟩]
  refine ⟨?_, failed, fails failed⟩
  cases known : highlight [.ofKind .regex "(?P<_>a)", .ofKind .regex "(?P<_>b)"] with
  | ok shown =>
    rw [known] at hidden
    cases hidden
  | error cause => exact ⟨cause, rfl, doubled cause (made.mp silent) known⟩

end LogView
