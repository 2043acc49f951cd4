import LogView.Proofs.Rule.List
import LogView.Session.Operation
import Mathlib.Tactic.SplitIfs

/-!
# Refused operations

A session refuses a document that was not read, more rules than a list holds, and a place at which
there is no rule.  It is then left as it was, but for the status, in which loading and adding tell
what is wrong.
-/

namespace LogView

namespace Session

/-- Emptying the only rule is refused at the same places as taking one of several out. -/
theorem rulesWithout_eq_error {list : RuleList} {index : Nat} {fault : ListFault} :
    rulesWithout list index = .error fault ↔
      list.length ≤ index ∧ fault = .noSuchRule index list.length := by
  unfold rulesWithout
  split_ifs with single
  · cases found : list.get? index with
    | some rule => exact RuleList.replace_eq_error
    | none =>
      have outside : list.length ≤ index := List.getElem?_eq_none_iff.mp found
      simp [outside, eq_comm]
  · rw [← RuleList.remove_eq_error]
    cases list.remove index <;> simp [Except.map]

/-- The fault for which a session refuses an operation, if it does. -/
def refusal? (session : Session) : Operation → Option SessionFault
  | .loadRead (.error unread) => some (.unread unread)
  | .setRules rules => if maxRules < rules.length then some (.list .full) else none
  | .addRule _ => if maxRules ≤ session.rules.length then some (.list .full) else none
  | .updateRule index _ | .removeRule index =>
    if session.rules.length ≤ index then
      some (.list (.noSuchRule index session.rules.length))
    else none
  | _ => none

end Session

/-- Whether an operation that is refused tells the fault in the status. -/
def Operation.reportsFault : Operation → Bool
  | .loadRead _ | .setRules _ | .addRule _ => true
  | _ => false

namespace Session

/-- A session after an operation that it refused. -/
def afterRefusal (session : Session) (operation : Operation) (fault : SessionFault) : Session :=
  { session with
    status := if operation.reportsFault then some ⟨fault.message, true⟩ else session.status }

theorem perform_of_refusal {session : Session} {operation : Operation} {fault : SessionFault}
    (refusal : session.refusal? operation = some fault) :
    session.perform operation = (session.afterRefusal operation fault, .error fault) := by
  cases operation with
  | loadRead document =>
    cases document with
    | ok document => cases refusal
    | error unread =>
      cases refusal
      rfl
  | setRules rules =>
    obtain ⟨long, rfl⟩ : maxRules < rules.length ∧ SessionFault.list .full = fault := by
      simpa [refusal?] using refusal
    have refused := RuleList.ofRules_eq_error.mpr ⟨long, rfl⟩
    simp only [perform, setRules, refused]
    rfl
  | addRule rule =>
    obtain ⟨full, rfl⟩ : maxRules ≤ session.rules.length ∧ SessionFault.list .full = fault := by
      simpa [refusal?] using refusal
    have refused : session.rules.push rule = .error .full :=
      RuleList.push_eq_error.mpr ⟨full, rfl⟩
    simp only [perform, addRule, refused]
    rfl
  | updateRule index rule =>
    obtain ⟨outside, rfl⟩ : session.rules.length ≤ index ∧
        SessionFault.list (.noSuchRule index session.rules.length) = fault := by
      simpa [refusal?] using refusal
    have refused : session.rules.replace index rule = .error (.noSuchRule index _) :=
      RuleList.replace_eq_error.mpr ⟨outside, rfl⟩
    simp only [perform, updateRule, refused]
    rfl
  | removeRule index =>
    obtain ⟨outside, rfl⟩ : session.rules.length ≤ index ∧
        SessionFault.list (.noSuchRule index session.rules.length) = fault := by
      simpa [refusal?] using refusal
    have refused := rulesWithout_eq_error.mpr ⟨outside, rfl⟩
    simp only [perform, removeRule, refused]
    rfl
  | _ => cases refusal

theorem perform_of_no_refusal {session : Session} {operation : Operation}
    (accepted : session.refusal? operation = none) :
    ∃ answer, (session.perform operation).2 = .ok answer := by
  cases operation with
  | loadRead document =>
    cases document with
    | ok document => exact ⟨.done, rfl⟩
    | error unread => cases accepted
  | setRules rules =>
    simp only [perform, setRules]
    cases made : RuleList.ofRules rules with
    | ok list => exact ⟨.done, rfl⟩
    | error fault => simp [refusal?, (RuleList.ofRules_eq_error.mp made).1] at accepted
  | addRule rule =>
    simp only [perform, addRule]
    cases made : session.rules.push rule with
    | ok list => exact ⟨.index session.rules.length, rfl⟩
    | error fault => simp [refusal?, (RuleList.push_eq_error.mp made).1] at accepted
  | updateRule index rule =>
    simp only [perform, updateRule]
    cases made : session.rules.replace index rule with
    | ok list => exact ⟨.done, rfl⟩
    | error fault => simp [refusal?, (RuleList.replace_eq_error.mp made).1] at accepted
  | removeRule index =>
    simp only [perform, removeRule]
    cases made : rulesWithout session.rules index with
    | ok list => exact ⟨.done, rfl⟩
    | error fault => simp [refusal?, (rulesWithout_eq_error.mp made).1] at accepted
  | _ => exact ⟨_, rfl⟩

/--
An operation fails for nothing but a refusal, and one that fails changes nothing but the status:
loading and adding show the text of the fault there, the others keep what stood there.
-/
theorem failed_operation_keeps (session : Session) (operation : Operation) (fault : SessionFault) :
    ((session.perform operation).2 = .error fault ↔ session.refusal? operation = some fault) ∧
      ((session.perform operation).2 = .error fault →
        (session.perform operation).1 =
          { session with
            status :=
              if operation.reportsFault then some ⟨fault.message, true⟩ else session.status }) := by
  have fails : (session.perform operation).2 = .error fault →
      session.refusal? operation = some fault := by
    intro failed
    cases refusal : session.refusal? operation with
    | none =>
      obtain ⟨answer, succeeded⟩ := perform_of_no_refusal refusal
      rw [succeeded] at failed
      cases failed
    | some other =>
      rw [perform_of_refusal refusal] at failed
      cases failed
      rfl
  refine ⟨⟨fails, fun refusal => ?_⟩, fun failed => ?_⟩
  · rw [perform_of_refusal refusal]
  · rw [perform_of_refusal (fails failed)]
    rfl

/-- A session that views a document with as many rules as it holds. -/
def filled (document : Document) (rule : Rule) : Session :=
  (blank.load document).setRules (List.replicate maxRules rule) |>.1

/-- A ninth rule is told in the status; changing it where it would be is not. -/
theorem ninth_rule_keeps :
    ((filled ⟨"app.log", [⟨1, "a"⟩]⟩ (.ofKind .contains "a")).perform
        (.addRule (.ofKind .contains "b"))).1 =
      { filled ⟨"app.log", [⟨1, "a"⟩]⟩ (.ofKind .contains "a") with
        status := some ⟨"Rule limit reached: at most 8 rules", true⟩ } ∧
    ((filled ⟨"app.log", [⟨1, "a"⟩]⟩ (.ofKind .contains "a")).perform
        (.updateRule 8 (.ofKind .contains "b"))).1 =
      filled ⟨"app.log", [⟨1, "a"⟩]⟩ (.ofKind .contains "a") :=
  ⟨(failed_operation_keeps _ (.addRule (.ofKind .contains "b")) (.list .full)).2 rfl,
    (failed_operation_keeps _ (.updateRule 8 (.ofKind .contains "b"))
      (.list (.noSuchRule 8 8))).2 rfl⟩

end Session

end LogView
