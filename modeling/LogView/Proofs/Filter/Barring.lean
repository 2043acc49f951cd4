import LogView.Proofs.Filter.Rejoined

/-!
# Where rules that bar stand

A rule that bars something is held beside the rules that ask, and all of them have to hold.  So it
does not matter where among the others such rules stand, in which order, or how they join: none of
them is the first that asks, lends its join to a neighbour, or has a part in the highlight.
-/

namespace LogView

/--
Whether lists hold the same rules, those that ask in the same order and with the same joins, and
those that bar in any order, at any places and with any joins.
-/
structure BarringMoved (rules others : List Rule) : Prop where
  asking : (rules.filter fun rule => rule.kind.asks) = others.filter fun rule => rule.kind.asks
  barring : ((rules.filter fun rule => !rule.kind.asks).map Rule.content).Perm
    ((others.filter fun rule => !rule.kind.asks).map Rule.content)

/-- Whether runs keep and highlight the same, and fail alike. -/
structure Run.ShowsAs (run other : Run) : Prop where
  kept : run.kept = other.kept
  failed : run.failed = other.failed
  highlight : run.highlight = other.highlight

/-- Where the same is highlighted, rules that filter alike show the same. -/
theorem FilterAlike.showsAs {rules others : List Rule} (alike : FilterAlike rules others)
    (marked : highlight rules = highlight others) (lines : List LogLine) :
    (Run.ofRules lines rules).ShowsAs (Run.ofRules lines others) where
  kept := by rw [Run.kept_ofRules, Run.kept_ofRules, alike.kept_eq]
  failed := by rw [Run.failed_eq, Run.failed_eq, alike.failed_eq]
  highlight := by rw [Run.highlight_eq, Run.highlight_eq, alike.failed_eq, marked]

theorem filter_isHighlighted (rules : List Rule) :
    rules.filter Rule.isHighlighted =
      (rules.filter fun rule => rule.kind.asks).filter fun rule => !rule.isBlank := by
  rw [List.filter_filter]
  rfl

theorem askingRules_eq_filter (rules : List Rule) :
    askingRules rules =
      (rules.filter fun rule => rule.kind.asks).filter fun rule => rule.test?.isSome := by
  rw [List.filter_filter]
  apply List.filter_congr
  intro rule _
  exact Bool.and_comm _ _

namespace BarringMoved

variable {rules others : List Rule} (moved : BarringMoved rules others)
include moved

theorem content : (rules.map Rule.content).Perm (others.map Rule.content) := by
  have split (rules : List Rule) : (rules.map Rule.content).Perm
      ((rules.filter fun rule => rule.kind.asks).map Rule.content ++
        (rules.filter fun rule => !rule.kind.asks).map Rule.content) := by
    rw [← List.map_append]
    exact (List.filter_append_perm _ rules).symm.map Rule.content
  have beside := moved.barring.append_left
    ((others.filter fun rule => rule.kind.asks).map Rule.content)
  have first := split rules
  rw [moved.asking] at first
  exact (first.trans beside).trans (split others).symm

theorem length_eq : rules.length = others.length := by
  simpa using moved.content.length_eq

theorem highlight_eq : highlight rules = highlight others := by
  unfold highlight
  rw [filter_isHighlighted, filter_isHighlighted, moved.asking]

theorem filterAlike : FilterAlike rules others where
  failed := allRefused_congr moved.content
  keeps := by
    intro text
    unfold Keeps
    rw [askingRules_eq_filter, askingRules_eq_filter, moved.asking]
    exact and_congr_right' (barred_congr moved.content text)

theorem showsAs (lines : List LogLine) :
    (Run.ofRules lines rules).ShowsAs (Run.ofRules lines others) :=
  moved.filterAlike.showsAs moved.highlight_eq lines

end BarringMoved

/--
Rules that bar may be moved and joined anew: the same is kept and highlighted, and the run fails as
it did.  A list of rules refuses both or holds both, and then its joins make no difference either.
-/
theorem run_of_moved {rules others : List Rule} (moved : BarringMoved rules others) :
    (∀ lines, (Run.ofRules lines rules).ShowsAs (Run.ofRules lines others)) ∧
      (RuleList.ofRules rules = .error .full ∧ RuleList.ofRules others = .error .full ∨
        ∃ list other, RuleList.ofRules rules = .ok list ∧ RuleList.ofRules others = .ok other ∧
          ∀ lines, (Run.ofRules lines list.rules).ShowsAs (Run.ofRules lines other.rules)) := by
  refine ⟨moved.showsAs, ?_⟩
  by_cases long : maxRules < rules.length
  · have long' : maxRules < others.length := moved.length_eq ▸ long
    exact .inl ⟨RuleList.ofRules_eq_error.mpr ⟨long, rfl⟩,
      RuleList.ofRules_eq_error.mpr ⟨long', rfl⟩⟩
  · have fits : rules.length ≤ maxRules := Nat.le_of_not_lt long
    have fits' : others.length ≤ maxRules := moved.length_eq ▸ fits
    refine .inr ⟨⟨RuleList.rejoin rules⟩, ⟨RuleList.rejoin others⟩,
      RuleList.ofRules_eq_ok.mpr ⟨fits, rfl⟩, RuleList.ofRules_eq_ok.mpr ⟨fits', rfl⟩, ?_⟩
    intro lines
    rw [Run.ofRules_rejoin, Run.ofRules_rejoin]
    exact moved.showsAs lines

/-- Rules behind which two bar something. -/
def barredBehind : List Rule :=
  [⟨none, .contains, "a", false⟩, ⟨some .or, .contains, "b", false⟩,
    ⟨some .or, .lacks, "z", false⟩, ⟨none, .lacks, "q", true⟩]

/-- The same rules, with those that bar first and in between. -/
def barredBefore : List Rule :=
  [⟨some .or, .lacks, "q", true⟩, ⟨none, .contains, "a", false⟩,
    ⟨some .and, .lacks, "z", false⟩, ⟨some .or, .contains, "b", false⟩]

/-- With a rule that bars in front, another rule loses its join in a list, and no more changes. -/
theorem run_of_barred_before :
    ∃ list other, RuleList.ofRules barredBehind = .ok list ∧
      RuleList.ofRules barredBefore = .ok other ∧
      list.rules.map Rule.join = [none, some .or, some .or, some .and] ∧
      other.rules.map Rule.join = [none, some .and, some .and, some .or] ∧
      (Run.ofRules [⟨1, "a"⟩, ⟨2, "bz"⟩, ⟨3, "b"⟩] list.rules).ShowsAs
        (Run.ofRules [⟨1, "a"⟩, ⟨2, "bz"⟩, ⟨3, "b"⟩] other.rules) := by
  have moved : BarringMoved barredBehind barredBefore := ⟨by decide, by decide⟩
  rcases (run_of_moved moved).2 with ⟨full, -⟩ | ⟨list, other, made, made', runs⟩
  · cases full
  · refine ⟨list, other, made, made', ?_, ?_, runs _⟩
    · cases made
      rfl
    · cases made'
      rfl

end LogView
