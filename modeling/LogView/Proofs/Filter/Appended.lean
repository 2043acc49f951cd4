import LogView.Proofs.Filter.Alike

/-!
# Rules behind others

A rule that is added behind others has the last word on what was asked for before it: joined by
`or` it lets through what it finds itself, joined otherwise it holds up all else.  A rule that bars
only takes away, however it joins.  Where nothing was asked for before, everything was let through,
so the first rule that asks takes away as well, and its join does not count.
-/

namespace LogView

theorem granted_concat {asking : List Rule} (asked : asking ≠ []) (rule : Rule) (text : String) :
    Granted (asking ++ [rule]) text ↔ joinRule text (Granted asking text) rule = true := by
  obtain ⟨first, rest, rfl⟩ := List.exists_cons_of_ne_nil asked
  have before : decide (Granted (first :: rest) text) =
      rest.foldl (joinRule text) (first.passes text) := by
    rw [Bool.eq_iff_iff, decide_eq_true_iff, granted_cons, foldl_joinRule]
  rw [List.cons_append, granted_cons, ← foldl_joinRule, List.foldl_concat, before]

theorem granted_concat_of_or {asking : List Rule} (asked : asking ≠ []) {rule : Rule}
    (opens : rule.join = some .or) (text : String) :
    Granted (asking ++ [rule]) text ↔ Granted asking text ∨ rule.passes text = true := by
  rw [granted_concat asked]
  simp [joinRule, opens]

theorem granted_concat_of_stays (asking : List Rule) {rule : Rule}
    (stays : rule.join ≠ some .or) (text : String) :
    Granted (asking ++ [rule]) text ↔ Granted asking text ∧ rule.passes text = true := by
  cases asking with
  | nil => simp [Granted]
  | cons first rest =>
    rw [granted_concat (List.cons_ne_nil first rest)]
    simp [joinRule]

section Last

variable (rules : List Rule) {rule : Rule} (text : String)

theorem keeps_concat_of_unmade (unmade : rule.test? = none) :
    Keeps (rules ++ [rule]) text ↔ Keeps rules text := by
  unfold Keeps
  rw [askingRules_append, barringRules_append]
  simp [askingRules, barringRules, unmade]

theorem keeps_concat_of_bars (bars : rule.kind.asks = false) (made : rule.test?.isSome = true) :
    Keeps (rules ++ [rule]) text ↔ Keeps rules text ∧ rule.passes text = true := by
  have asking : askingRules [rule] = [] := by simp [askingRules, bars]
  have barring : barringRules [rule] = [rule] := by simp [barringRules, bars, made]
  unfold Keeps
  rw [askingRules_append, barringRules_append, asking, barring, List.append_nil,
    List.forall_mem_append, List.forall_mem_singleton, and_assoc]

/-- A rule that asks changes nothing of what is barred. -/
theorem keeps_concat_of_asks (asks : rule.kind.asks = true) (made : rule.test?.isSome = true) :
    Keeps (rules ++ [rule]) text ↔
      Granted (askingRules rules ++ [rule]) text ∧
        ∀ other ∈ barringRules rules, other.passes text = true := by
  have asking : askingRules [rule] = [rule] := by simp [askingRules, asks, made]
  have barring : barringRules [rule] = [] := by simp [barringRules, asks]
  unfold Keeps
  rw [askingRules_append, barringRules_append, asking, barring, List.append_nil]

/-- What passes a rule that bars, or one that opens no alternative, passed the rules before it. -/
theorem keeps_of_concat (narrows : rule.kind.asks = false ∨ rule.join ≠ some .or)
    (kept : Keeps (rules ++ [rule]) text) : Keeps rules text := by
  cases test : rule.test? with
  | none => exact (keeps_concat_of_unmade rules text test).mp kept
  | some _ =>
    have made : rule.test?.isSome = true := by simp [test]
    cases asks : rule.kind.asks with
    | false => exact ((keeps_concat_of_bars rules text asks made).mp kept).1
    | true =>
      have stays : rule.join ≠ some .or := by simpa [asks] using narrows
      obtain ⟨granted, barred⟩ := (keeps_concat_of_asks rules text asks made).mp kept
      exact ⟨((granted_concat_of_stays _ stays text).mp granted).1, barred⟩

theorem keeps_concat (asks : rule.kind.asks = true) (opens : rule.join = some .or)
    (asked : askingRules rules ≠ []) (kept : Keeps rules text) : Keeps (rules ++ [rule]) text := by
  cases test : rule.test? with
  | none => exact (keeps_concat_of_unmade rules text test).mpr kept
  | some _ =>
    have made : rule.test?.isSome = true := by simp [test]
    rw [keeps_concat_of_asks rules text asks made, granted_concat_of_or asked opens]
    exact ⟨.inl kept.1, kept.2⟩

end Last

theorem kept_sublist_of_keeps {lines : List LogLine} {rules others : List Rule}
    (sound : (evaluate lines others).failed = false)
    (keeps : ∀ text, Keeps rules text → Keeps others text) :
    (evaluate lines rules).kept.Sublist (evaluate lines others).kept := by
  cases failed : (evaluate lines rules).failed with
  | true =>
    rw [kept_of_failed failed]
    exact List.nil_sublist _
  | false =>
    rw [evaluate_kept failed, evaluate_kept sound]
    apply List.monotone_filter_right
    intro line accepted
    rw [Tests.accepts_ofRules] at accepted ⊢
    exact keeps line.text accepted

/--
A rule behind others keeps no more than they do if it bars or opens no alternative, and no less if
it asks, opens one, and another rule that asks makes a test.  It may be blank or refused.
-/
theorem kept_concat {lines : List LogLine} {rules : List Rule}
    (sound : (evaluate lines rules).failed = false) (rule : Rule) :
    (rule.kind.asks = false ∨ rule.join ≠ some .or →
      (evaluate lines (rules ++ [rule])).kept.Sublist (evaluate lines rules).kept) ∧
    (rule.kind.asks = true → rule.join = some .or →
      (∃ other ∈ rules, other.kind.asks = true ∧ ∃ test, other.compile = .ok (some test)) →
      (evaluate lines rules).kept.Sublist (evaluate lines (rules ++ [rule])).kept) := by
  constructor
  · intro narrows
    apply kept_sublist_of_keeps sound
    intro text
    exact keeps_of_concat rules text narrows
  · rintro asks opens ⟨other, mem, asking, compiled⟩
    have made := Rule.isSome_test?_iff.mpr compiled
    have asked : askingRules rules ≠ [] :=
      List.ne_nil_of_mem (mem_askingRules.mpr ⟨mem, asking, made⟩)
    have sound' : (evaluate lines (rules ++ [rule])).failed = false := by
      rw [Bool.eq_false_iff, Ne, evaluate_failed]
      exact not_allRefused (List.mem_append_left [rule] mem) made
    apply kept_sublist_of_keeps sound'
    intro text
    exact keeps_concat rules text asks opens asked

/-- Rules of which the first one is refused. -/
def refusedFirst : List Rule := [.ofKind .regex "(", .ofKind .contains "a"]

/-- Behind the same rules, one rule keeps no more, one no less, and a refused one no less either. -/
theorem kept_concat_to_refused :
    (evaluate [⟨1, "a"⟩, ⟨2, "ab"⟩, ⟨3, "c"⟩]
        (refusedFirst ++ [(Rule.ofKind .contains "b").joined .and])).kept.Sublist
      (evaluate [⟨1, "a"⟩, ⟨2, "ab"⟩, ⟨3, "c"⟩] refusedFirst).kept ∧
    (evaluate [⟨1, "a"⟩, ⟨2, "ab"⟩, ⟨3, "c"⟩] refusedFirst).kept.Sublist
      (evaluate [⟨1, "a"⟩, ⟨2, "ab"⟩, ⟨3, "c"⟩]
        (refusedFirst ++ [(Rule.ofKind .contains "c").joined .or])).kept ∧
    (evaluate [⟨1, "a"⟩, ⟨2, "ab"⟩, ⟨3, "c"⟩] refusedFirst).kept.Sublist
      (evaluate [⟨1, "a"⟩, ⟨2, "ab"⟩, ⟨3, "c"⟩]
        (refusedFirst ++ [(Rule.ofKind .regex "[").joined .or])).kept := by
  have sound : (evaluate [⟨1, "a"⟩, ⟨2, "ab"⟩, ⟨3, "c"⟩] refusedFirst).failed = false := by
    decide +kernel
  have asks : ∃ other ∈ refusedFirst, other.kind.asks = true ∧
      ∃ test, other.compile = .ok (some test) :=
    ⟨.ofKind .contains "a", by simp [refusedFirst], rfl,
      Rule.isSome_test?_iff.mp (by decide +kernel)⟩
  exact ⟨(kept_concat sound _).1 (.inr (by decide)), (kept_concat sound _).2 rfl rfl asks,
    (kept_concat sound _).2 rfl rfl asks⟩

end LogView
