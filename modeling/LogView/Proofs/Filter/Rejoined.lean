import LogView.Proofs.Filter.Alike

/-!
# Joins that a list of rules sets

A list of rules takes the join of its first rule away and lets every later rule that names none join
by `and`.  Neither shows in a run: the join of the first rule that asks for something takes no part,
wherever that rule stands, and a rule without a join is joined as by `and`.
-/

namespace LogView

namespace RuleList

theorem filterMap_rejoin {α : Type} {f : Rule → Option α}
    (unaffected : ∀ rule join, f { rule with join := join } = f rule) (rules : List Rule) :
    (rejoin rules).filterMap f = rules.filterMap f := by
  have told := congrArg (List.filterMap id) (map_rejoin unaffected rules)
  rwa [List.filterMap_map, List.filterMap_map] at told

end RuleList

namespace Rule

theorem isSome_test?_with_join (rule : Rule) (join : Option Join) :
    (test? { rule with join := join }).isSome = rule.test?.isSome := by
  unfold test?
  rw [compile_with_join]
  cases rule.compile with
  | error refused => rfl
  | ok made => cases made <;> rfl

theorem passes_with_join (rule : Rule) (join : Option Join) (text : String) :
    passes { rule with join := join } text = rule.passes text := by
  unfold passes test?
  rw [compile_with_join]
  cases rule.compile with
  | error refused => rfl
  | ok made => cases made <;> rfl

theorem opens_following (rule : Rule) :
    rule.following.join = some .or ↔ rule.join = some .or := by
  unfold following
  cases rule.join with
  | none => simp
  | some join => simp

theorem passes_following (rule : Rule) (text : String) :
    rule.following.passes text = rule.passes text := passes_with_join rule _ text

theorem passes_leading (rule : Rule) (text : String) :
    rule.leading.passes text = rule.passes text := passes_with_join rule _ text

end Rule

theorem askingRules_following (rules : List Rule) :
    askingRules (rules.map Rule.following) = (askingRules rules).map Rule.following := by
  unfold askingRules
  rw [List.filter_map]
  refine congrArg (List.map Rule.following) (List.filter_congr fun rule _ => ?_)
  exact congrArg (rule.kind.asks && ·) (rule.isSome_test?_with_join _)

theorem unbroken_following (text : String) (rules : List Rule) :
    Unbroken text (rules.map Rule.following) ↔ Unbroken text rules := by
  induction rules with
  | nil => rfl
  | cons rule rules ih =>
    rw [List.map_cons, unbroken_cons, unbroken_cons, ih, Rule.passes_following, Ne,
      Rule.opens_following]

theorem reopened_following (text : String) (rules : List Rule) :
    Reopened text (rules.map Rule.following) ↔ Reopened text rules := by
  induction rules with
  | nil => rfl
  | cons rule rules ih =>
    rw [List.map_cons, reopened_cons, reopened_cons, ih, unbroken_following,
      Rule.passes_following, Rule.opens_following]

theorem granted_following (rules : List Rule) (text : String) :
    Granted (rules.map Rule.following) text ↔ Granted rules text := by
  cases rules with
  | nil => rfl
  | cons rule rules =>
    rw [List.map_cons, granted_cons, granted_cons, unbroken_following, reopened_following,
      Rule.passes_following]

theorem granted_leading (rule : Rule) (rules : List Rule) (text : String) :
    Granted (rule.leading :: rules.map Rule.following) text ↔ Granted (rule :: rules) text := by
  rw [granted_cons, granted_cons, unbroken_following, reopened_following, Rule.passes_leading]

/-- The head of the list asks first, or else one of the rules behind it does. -/
theorem granted_rejoin (rules : List Rule) (text : String) :
    Granted (askingRules (RuleList.rejoin rules)) text ↔ Granted (askingRules rules) text := by
  cases rules with
  | nil => rfl
  | cons first rest =>
    have asks : (first.leading.kind.asks && first.leading.test?.isSome) =
        (first.kind.asks && first.test?.isSome) :=
      congrArg (first.kind.asks && ·) (first.isSome_test?_with_join none)
    have behind := askingRules_following rest
    unfold RuleList.rejoin askingRules at *
    rw [List.filter_cons, List.filter_cons, asks, behind]
    split_ifs
    · exact granted_leading ..
    · exact granted_following ..

/-- What rules bar depends on what they test, not on their order or their joins. -/
theorem barred_congr {rules others : List Rule}
    (same : (rules.map Rule.content).Perm (others.map Rule.content)) (text : String) :
    (∀ rule ∈ barringRules rules, rule.passes text = true) ↔
      ∀ rule ∈ barringRules others, rule.passes text = true := by
  have told (rules : List Rule) : (∀ rule ∈ barringRules rules, rule.passes text = true) ↔
      ∀ told ∈ rules.map fun rule => (rule.kind.asks, rule.test?.isSome, rule.passes text),
        told.1 = false → told.2.1 = true → told.2.2 = true := by
    simp [mem_barringRules]
  have alike : (rules.map fun rule => (rule.kind.asks, rule.test?.isSome, rule.passes text)).Perm
      (others.map fun rule => (rule.kind.asks, rule.test?.isSome, rule.passes text)) := by
    refine Rule.map_perm_of_content ?_ same
    intro rule join
    rw [Rule.isSome_test?_with_join, Rule.passes_with_join]
  rw [told, told]
  simp only [alike.mem_iff]

theorem barred_rejoin (rules : List Rule) (text : String) :
    (∀ rule ∈ barringRules (RuleList.rejoin rules), rule.passes text = true) ↔
      ∀ rule ∈ barringRules rules, rule.passes text = true :=
  barred_congr (.of_eq (RuleList.map_content_rejoin rules)) text

theorem filterAlike_rejoin (rules : List Rule) : FilterAlike (RuleList.rejoin rules) rules where
  failed := allRefused_rejoin
  keeps := fun text => and_congr (granted_rejoin rules text) (barred_rejoin rules text)

/-- What a rule adds to the highlight: its text, and whether case counts in it. -/
def Rule.highlightPart? (rule : Rule) : Option (String × Bool) :=
  if rule.isHighlighted then some (rule.highlightSource, rule.caseSensitive) else none

/-- The highlight that parts make. -/
def highlightOfParts (parts : List (String × Bool)) : Except RefusedPattern (Option Pattern) :=
  if parts.isEmpty then .ok none
  else
    let source := String.intercalate "|" (parts.map Prod.fst)
    match Pattern.ofSource source (parts.any fun part => !part.2) with
    | .ok pattern => .ok (some pattern)
    | .error fault => .error ⟨source, fault⟩

/-- The highlight of rules is made of what each of them adds to it, and no join is part of that. -/
theorem highlight_eq_ofParts (rules : List Rule) :
    highlight rules = highlightOfParts (rules.filterMap Rule.highlightPart?) := by
  have parts : rules.filterMap Rule.highlightPart? =
      (rules.filter Rule.isHighlighted).map fun rule =>
        (rule.highlightSource, rule.caseSensitive) := by
    rw [← List.filterMap_eq_map, List.filterMap_filter]
    rfl
  rw [parts]
  unfold highlight
  cases rules.filter Rule.isHighlighted with
  | nil => rfl
  | cons first rest =>
    unfold highlightOfParts
    simp only [List.map_map, List.any_map, Function.comp_def]
    rfl

theorem highlight_rejoin (rules : List Rule) :
    highlight (RuleList.rejoin rules) = highlight rules := by
  rw [highlight_eq_ofParts, highlight_eq_ofParts, RuleList.filterMap_rejoin]
  intro rule join
  rfl

theorem Run.ofRules_rejoin (lines : List LogLine) (rules : List Rule) :
    Run.ofRules lines (RuleList.rejoin rules) = Run.ofRules lines rules := by
  refine (filterAlike_rejoin rules).run_eq ?_ (highlight_rejoin rules) lines
  exact RuleList.filterMap_rejoin Rule.refusal?_with_join rules

/-- Rules that a list can hold run the same in the list as they do outside of it. -/
theorem run_of_list {rules : List Rule} (fits : rules.length ≤ maxRules) :
    ∃ list, RuleList.ofRules rules = .ok list ∧
      ∀ lines, Run.ofRules lines list.rules = Run.ofRules lines rules := by
  refine ⟨⟨RuleList.rejoin rules⟩, RuleList.ofRules_eq_ok.mpr ⟨fits, rfl⟩, ?_⟩
  intro lines
  exact Run.ofRules_rejoin lines rules

/-- The rule that asks first stands behind one that bars, and gets a join in place of none. -/
theorem run_of_barring_list :
    ∃ list, RuleList.ofRules [⟨some .or, .lacks, "z", false⟩, ⟨none, .contains, "a", false⟩,
        ⟨none, .contains, "b", false⟩] = .ok list ∧
      list.rules.map Rule.join = [none, some .and, some .and] ∧
      Run.ofRules [⟨1, "a"⟩, ⟨2, "ab"⟩] list.rules =
        Run.ofRules [⟨1, "a"⟩, ⟨2, "ab"⟩]
          [⟨some .or, .lacks, "z", false⟩, ⟨none, .contains, "a", false⟩,
            ⟨none, .contains, "b", false⟩] := by
  have fits : [(⟨some .or, .lacks, "z", false⟩ : Rule), ⟨none, .contains, "a", false⟩,
      ⟨none, .contains, "b", false⟩].length ≤ maxRules := by decide
  obtain ⟨list, made, runs⟩ := run_of_list fits
  have joins : list.rules.map Rule.join = [none, some .and, some .and] := by
    cases made
    rfl
  exact ⟨list, made, joins, runs _⟩

end LogView
