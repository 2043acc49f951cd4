import LogView.Proofs.Filter.Rejoined
import LogView.Proofs.Session.InSync

/-!
# Rules taken out of a session

A rule that is taken out leaves no trace in what is filtered.  If it is one of several, it goes,
and the rules that are left are joined anew.  If it is the only one, it stays as a blank rule of
its kind, and a blank rule filters as none would.
-/

namespace LogView

theorem Rule.isBlank_ofKind_empty (kind : Kind) : (Rule.ofKind kind "").isBlank = true := rfl

theorem Run.ofRules_of_blank {rules : List Rule} (blank : ∀ rule ∈ rules, rule.isBlank = true)
    (lines : List LogLine) : Run.ofRules lines rules = Run.ofRules lines [] := by
  have inactive : (rules.filter fun rule => !rule.isBlank) = [] := by
    rw [List.filter_eq_nil_iff]
    intro rule mem
    simp [blank rule mem]
  rw [← Run.ofRules_filter_active rules lines, inactive]

namespace Session

theorem rulesWithout_only (rule : Rule) :
    ∃ next, rulesWithout ⟨[rule]⟩ 0 = .ok next ∧ next.length = 1 ∧
      ∀ lines, Run.ofRules lines next.rules = Run.ofRules lines [] := by
  refine ⟨⟨RuleList.rejoin [.ofKind rule.kind ""]⟩, rfl, rfl, ?_⟩
  intro lines
  rw [Run.ofRules_rejoin]
  apply Run.ofRules_of_blank
  intro blank mem
  rw [List.mem_singleton.mp mem]
  exact Rule.isBlank_ofKind_empty rule.kind

theorem rulesWithout_of_several {list : RuleList} (several : 1 < list.length) {index : Nat}
    (inside : index < list.length) :
    ∃ next, rulesWithout list index = .ok next ∧ next.length = list.length - 1 ∧
      ∀ lines, Run.ofRules lines next.rules = Run.ofRules lines (list.rules.eraseIdx index) := by
  have found : list.get? index = some list.rules[index] := List.getElem?_eq_getElem inside
  refine ⟨⟨RuleList.rejoin (list.rules.eraseIdx index)⟩, ?_, ?_, ?_⟩
  · simp [rulesWithout, Nat.not_le.mpr several, RuleList.remove, found, Except.map]
  · unfold RuleList.length
    rw [RuleList.length_rejoin, List.length_eraseIdx_of_lt inside]
  · intro lines
    exact Run.ofRules_rejoin lines _

/-- Whatever list a rule is taken out of, the list runs as if the rule were gone. -/
theorem exists_rulesWithout {list : RuleList} {index : Nat} (inside : index < list.length) :
    ∃ next, rulesWithout list index = .ok next ∧ next.length = max 1 (list.length - 1) ∧
      ∀ lines, Run.ofRules lines next.rules = Run.ofRules lines (list.rules.eraseIdx index) := by
  by_cases several : 1 < list.length
  · obtain ⟨next, taken, length, runs⟩ := rulesWithout_of_several several inside
    have most : list.length - 1 = max 1 (list.length - 1) := by omega
    exact ⟨next, taken, length.trans most, runs⟩
  · have one : list.length = 1 := by omega
    obtain ⟨rules⟩ := list
    obtain ⟨rule, rfl⟩ := List.length_eq_one_iff.mp one
    have first : index = 0 := by omega
    subst first
    exact rulesWithout_only rule

/--
Taking a rule out succeeds wherever there is one, and the document is then filtered as if the rule
were gone.  There still is a rule, and of several rules just one is missing.
-/
theorem run_of_removed {session : Session} {document : Document}
    (loaded : session.document = some document) {index : Nat}
    (inside : index < session.rules.length) :
    (session.removeRule index).2 = .ok () ∧
      (session.removeRule index).1.document = some document ∧
      (session.removeRule index).1.run =
        Run.ofRules document.lines (session.rules.rules.eraseIdx index) ∧
      1 ≤ (session.removeRule index).1.rules.length ∧
      (2 ≤ session.rules.length →
        (session.removeRule index).1.rules.length = session.rules.length - 1) := by
  obtain ⟨next, taken, length, runs⟩ := exists_rulesWithout inside
  have removed : session.removeRule index = (refilter { session with rules := next }, .ok ()) := by
    simp [removeRule, taken]
  have viewed : Session.document { session with rules := next } = some document := loaded
  rw [removed]
  dsimp only
  rw [document_refilter, rules_refilter, run_refilter viewed]
  refine ⟨rfl, viewed, runs document.lines, ?_, ?_⟩
  · change 1 ≤ next.length
    omega
  · intro several
    change next.length = session.rules.length - 1
    omega

/-- A session that views two lines with rules. -/
def withTwoLines (rules : List Rule) : Session :=
  ((blank.load ⟨"app.log", [⟨1, "a"⟩, ⟨2, "b"⟩]⟩).setRules rules).1

/-- The second of two rules is left with its own join; an only rule that is refused is blanked. -/
theorem run_of_removed_first :
    ((withTwoLines [.ofKind .contains "a",
        (Rule.ofKind .contains "b").joined .or]).removeRule 0).1.run =
      Run.ofRules [⟨1, "a"⟩, ⟨2, "b"⟩] [(Rule.ofKind .contains "b").joined .or] ∧
    ((withTwoLines [.ofKind .regex "("]).removeRule 0).1.run =
      Run.ofRules [⟨1, "a"⟩, ⟨2, "b"⟩] [] ∧
    1 ≤ ((withTwoLines [.ofKind .regex "("]).removeRule 0).1.rules.length := by
  obtain ⟨-, -, first, -⟩ := @run_of_removed
    (withTwoLines [.ofKind .contains "a", (Rule.ofKind .contains "b").joined .or])
    ⟨"app.log", [⟨1, "a"⟩, ⟨2, "b"⟩]⟩ rfl 0 (by decide)
  obtain ⟨-, -, only, stays, -⟩ := @run_of_removed (withTwoLines [.ofKind .regex "("])
    ⟨"app.log", [⟨1, "a"⟩, ⟨2, "b"⟩]⟩ rfl 0 (by decide)
  exact ⟨first, only, stays⟩

end Session
end LogView
