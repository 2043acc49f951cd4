import LogView.Proofs.Filter.Accounting
import LogView.Proofs.Filter.Membership

/-!
# Rules that filter alike

What is kept of any lines depends on two things only: whether all rules are refused, and which texts
the rules keep.  What a run tells and marks depends on the rules that are refused and on those that
have a part in the highlight.  Rules that add to none of these may be left out: blank rules always,
and refused rules as far as lines are kept, if another rule makes a test.
-/

namespace LogView

/-- Whether two lists of rules keep the same of any lines. -/
structure FilterAlike (rules others : List Rule) : Prop where
  failed : AllRefused rules ↔ AllRefused others
  keeps : ∀ text, Keeps rules text ↔ Keeps others text

namespace FilterAlike

variable {rules others : List Rule} (alike : FilterAlike rules others)
include alike

theorem failed_eq (lines : List LogLine) :
    (evaluate lines rules).failed = (evaluate lines others).failed := by
  rw [Bool.eq_iff_iff, evaluate_failed, evaluate_failed]
  exact alike.failed

theorem kept_eq (lines : List LogLine) :
    (evaluate lines rules).kept = (evaluate lines others).kept := by
  cases failed : (evaluate lines rules).failed with
  | true =>
    have failed' := alike.failed_eq lines ▸ failed
    rw [kept_of_failed failed, kept_of_failed failed']
  | false =>
    have sound := alike.failed_eq lines ▸ failed
    rw [evaluate_kept failed, evaluate_kept sound]
    refine List.filter_congr fun line _ => ?_
    rw [Bool.eq_iff_iff, Tests.accepts_ofRules, Tests.accepts_ofRules]
    exact alike.keeps line.text

/-- Rules that keep the same, and of which the same is refused and highlighted, run alike. -/
theorem run_eq (told : rules.filterMap Rule.refusal? = others.filterMap Rule.refusal?)
    (marked : highlight rules = highlight others) (lines : List LogLine) :
    Run.ofRules lines rules = Run.ofRules lines others := by
  have refused : (evaluate lines rules).refused = (evaluate lines others).refused := by
    rw [evaluate_refused, evaluate_refused, told]
  have evaluated : evaluate lines rules = evaluate lines others := by
    calc
      evaluate lines rules =
          ⟨(evaluate lines rules).kept, (evaluate lines rules).refused,
            (evaluate lines rules).failed⟩ := rfl
      _ = ⟨(evaluate lines others).kept, (evaluate lines others).refused,
            (evaluate lines others).failed⟩ := by
        rw [alike.kept_eq, alike.failed_eq, refused]
      _ = evaluate lines others := rfl
  unfold Run.ofRules
  rw [evaluated, marked]

end FilterAlike

section Dropped

variable {keeps : Rule → Bool} {rules : List Rule}
  (tests : ∀ rule ∈ rules, rule.test?.isSome = true → keeps rule = true)
include tests

theorem filter_testing (which : Rule → Bool) :
    (rules.filter keeps).filter (fun rule => which rule && rule.test?.isSome) =
      rules.filter fun rule => which rule && rule.test?.isSome := by
  rw [List.filter_filter]
  refine List.filter_congr fun rule mem => ?_
  cases made : rule.test?.isSome with
  | false => simp
  | true => simp [tests rule mem made]

/-- Leaving out rules that make no test lets the same texts through. -/
theorem filterAlike_filter (failed : AllRefused (rules.filter keeps) ↔ AllRefused rules) :
    FilterAlike (rules.filter keeps) rules where
  failed := failed
  keeps := by
    intro text
    unfold Keeps askingRules barringRules
    rw [filter_testing tests, filter_testing tests]

end Dropped

namespace Rule

variable {rule : Rule}

theorem isBlank_of_test? (made : rule.test?.isSome = true) : rule.isBlank = false := by
  obtain ⟨test, made⟩ := Option.isSome_iff_exists.mp made
  exact isBlank_eq_false (by simp [compile_of_test? made])

theorem isRefused_of_test? (made : rule.test?.isSome = true) : rule.isRefused = false := by
  cases test : rule.test? with
  | none => simp [test] at made
  | some test => simp [isRefused, test]

theorem refusal?_of_blank (blank : rule.isBlank = true) : rule.refusal? = none := by
  simp [refusal?, compile_eq_none.mpr blank]

theorem isSome_test?_iff :
    rule.test?.isSome = true ↔ ∃ test, rule.compile = .ok (some test) := by
  rw [Option.isSome_iff_exists]
  exact exists_congr fun test => ⟨compile_of_test?, test?_of_compile⟩

end Rule

theorem not_allRefused {rules : List Rule} {rule : Rule} (mem : rule ∈ rules)
    (made : rule.test?.isSome = true) : ¬ AllRefused rules := by
  rintro ⟨-, all⟩
  obtain ⟨refused, compiled⟩ := all rule mem (Rule.isBlank_of_test? made)
  simp [Rule.test?_of_refused compiled] at made

section Blank

variable (rules : List Rule)

theorem allRefused_filter_active :
    AllRefused (rules.filter fun rule => !rule.isBlank) ↔ AllRefused rules := by
  simp [AllRefused, List.mem_filter]

theorem filterAlike_active : FilterAlike (rules.filter fun rule => !rule.isBlank) rules := by
  refine filterAlike_filter ?_ (allRefused_filter_active rules)
  intro rule _ made
  simp [Rule.isBlank_of_test? made]

theorem refusals_filter_active :
    (rules.filter fun rule => !rule.isBlank).filterMap Rule.refusal? =
      rules.filterMap Rule.refusal? := by
  rw [List.filterMap_filter]
  refine List.filterMap_congr fun rule _ => ?_
  cases blank : rule.isBlank with
  | false => simp
  | true => simp [Rule.refusal?_of_blank blank]

theorem highlight_filter_active :
    highlight (rules.filter fun rule => !rule.isBlank) = highlight rules := by
  have marked : (rules.filter fun rule => !rule.isBlank).filter Rule.isHighlighted =
      rules.filter Rule.isHighlighted := by
    rw [List.filter_filter]
    refine List.filter_congr fun rule _ => ?_
    unfold Rule.isHighlighted
    cases rule.isBlank <;> simp
  unfold highlight
  rw [marked]

theorem Run.ofRules_filter_active (lines : List LogLine) :
    Run.ofRules lines (rules.filter fun rule => !rule.isBlank) = Run.ofRules lines rules :=
  (filterAlike_active rules).run_eq (refusals_filter_active rules) (highlight_filter_active rules)
    lines

end Blank

/-- Where a rule makes a test, refused rules have no part in what is kept. -/
theorem filterAlike_accepted {rules : List Rule} {rule : Rule} (mem : rule ∈ rules)
    (made : rule.test?.isSome = true) :
    FilterAlike (rules.filter fun rule => !rule.isRefused) rules := by
  refine filterAlike_filter ?_ ?_
  · intro other _ made
    simp [Rule.isRefused_of_test? made]
  · have stays : rule ∈ rules.filter fun rule => !rule.isRefused :=
      List.mem_filter.mpr ⟨mem, by simp [Rule.isRefused_of_test? made]⟩
    exact iff_of_false (not_allRefused stays made) (not_allRefused mem made)

/--
Blank rules change nothing of a run, wherever they stand and however they join.  Refused rules
change nothing of what is kept, and nothing fails, if some rule makes a test; every other rule keeps
its own join.
-/
theorem run_without_inert (lines : List LogLine) (rules : List Rule) :
    Run.ofRules lines (rules.filter fun rule => !rule.isBlank) = Run.ofRules lines rules ∧
      ((∃ rule ∈ rules, ∃ test, rule.compile = .ok (some test)) →
        (evaluate lines (rules.filter fun rule => !rule.isRefused)).kept =
            (evaluate lines rules).kept ∧
          (evaluate lines (rules.filter fun rule => !rule.isRefused)).failed = false ∧
          (evaluate lines rules).failed = false) := by
  refine ⟨Run.ofRules_filter_active rules lines, ?_⟩
  rintro ⟨rule, mem, compiled⟩
  have made := Rule.isSome_test?_iff.mpr compiled
  have alike := filterAlike_accepted mem made
  have sound : (evaluate lines rules).failed = false := by
    rw [Bool.eq_false_iff, Ne, evaluate_failed]
    exact not_allRefused mem made
  exact ⟨alike.kept_eq lines, (alike.failed_eq lines).trans sound, sound⟩

/-- Rules that begin with a refused one and a blank one, with another refused one in between. -/
def cluttered : List Rule :=
  [.ofKind .regex "(", ⟨some .or, .contains, " ", false⟩, ⟨some .or, .contains, "a", false⟩,
    ⟨some .and, .contains, "b", false⟩, ⟨some .and, .regex, "[", false⟩,
    ⟨some .or, .contains, "c", false⟩]

/-- What is left of such rules keeps its joins, of which the first one that asks takes no part. -/
theorem run_without_clutter :
    Run.ofRules [⟨1, "b"⟩, ⟨2, "ab"⟩, ⟨3, "c"⟩] (cluttered.filter fun rule => !rule.isBlank) =
        Run.ofRules [⟨1, "b"⟩, ⟨2, "ab"⟩, ⟨3, "c"⟩] cluttered ∧
      (evaluate [⟨1, "b"⟩, ⟨2, "ab"⟩, ⟨3, "c"⟩]
          [⟨some .or, .contains, " ", false⟩, ⟨some .or, .contains, "a", false⟩,
            ⟨some .and, .contains, "b", false⟩, ⟨some .or, .contains, "c", false⟩]).kept =
        (evaluate [⟨1, "b"⟩, ⟨2, "ab"⟩, ⟨3, "c"⟩] cluttered).kept ∧
      (evaluate [⟨1, "b"⟩, ⟨2, "ab"⟩, ⟨3, "c"⟩] cluttered).failed = false := by
  have made : ∃ rule ∈ cluttered, ∃ test, rule.compile = .ok (some test) := by
    refine ⟨⟨some .or, .contains, "a", false⟩, by simp [cluttered], ?_⟩
    exact Rule.isSome_test?_iff.mp (by decide +kernel)
  have left : cluttered.filter (fun rule => !rule.isRefused) =
      [⟨some .or, .contains, " ", false⟩, ⟨some .or, .contains, "a", false⟩,
        ⟨some .and, .contains, "b", false⟩, ⟨some .or, .contains, "c", false⟩] := by
    decide +kernel
  obtain ⟨blank, accepted⟩ := run_without_inert [⟨1, "b"⟩, ⟨2, "ab"⟩, ⟨3, "c"⟩] cluttered
  obtain ⟨kept, -, sound⟩ := accepted made
  rw [left] at kept
  exact ⟨blank, kept, sound⟩

end LogView
