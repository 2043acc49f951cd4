import LogView.Proofs.Filter.Failure
import LogView.Proofs.Session.InSync
import LogView.Proofs.Session.Refusal

/-!
# The status

An edit that succeeds on a document filters it again, and the status then tells of an error exactly
if a pattern was refused.  Without a document nothing is filtered, and an edit that succeeds leaves
the error of an earlier one in the status.  No operation makes the status silent about a pattern
that is still refused.
-/

namespace LogView

namespace Session

/-- Whether the status tells of an error. -/
def tellsError (session : Session) : Bool := session.status.any Status.isError

/-- The status tells of an error exactly if the run refused a pattern, and then tells which. -/
def TellsRun (session : Session) : Prop :=
  (session.tellsError = true ↔ session.run.refused ≠ []) ∧
    (session.run.refused ≠ [] →
      ∃ message, session.run.errorMessage? = some message ∧
        session.status = some ⟨message, true⟩)

theorem tellsRun_of_accepted {session : Session} (accepted : session.run.refused = []) :
    session.TellsRun ↔ session.tellsError = false := by
  simp [TellsRun, accepted]

theorem tellsRun_of_message {session : Session} {message : String}
    (refused : session.run.errorMessage? = some message)
    (told : session.status = some ⟨message, true⟩) : session.TellsRun := by
  have refuses : session.run.refused ≠ [] := by
    intro accepted
    rw [Run.errorMessage?_eq_none.mpr accepted] at refused
    cases refused
  have tells : session.tellsError = true := by simp [tellsError, told]
  exact ⟨⟨fun _ => refuses, fun _ => tells⟩, fun _ => ⟨message, refused, told⟩⟩

theorem statusAfter_of_accepted {run : Run} (accepted : run.refused = [])
    (status : Option Status) : (statusAfter run status).any Status.isError = false := by
  unfold statusAfter
  rw [Run.errorMessage?_eq_none.mpr accepted]
  cases status with
  | none => rfl
  | some status => simp

theorem status_refilter {session : Session} {document : Document}
    (loaded : session.document = some document) :
    session.refilter.status = statusAfter session.refilter.run session.status := by
  simp only [refilter, loaded]

/-- Filtering a document leaves nothing in the status but what that filtering refused. -/
theorem tellsRun_refilter {session : Session} {document : Document}
    (loaded : session.document = some document) : session.refilter.TellsRun := by
  have status := status_refilter loaded
  cases told : session.refilter.run.errorMessage? with
  | some message =>
    refine tellsRun_of_message told ?_
    rw [status, statusAfter, told]
  | none =>
    have accepted := Run.errorMessage?_eq_none.mp told
    rw [tellsRun_of_accepted accepted, tellsError, status]
    exact statusAfter_of_accepted accepted _

/--
An edit that succeeds is a filtering of a session that has a document, or has none and the same
status as before.
-/
theorem exists_refilter_of_ok {session : Session} {operation : Operation} {answer : Answer}
    (edits : operation.turnsPage = false)
    (succeeds : (session.perform operation).2 = .ok answer) :
    ∃ edited : Session, (session.perform operation).1 = edited.refilter ∧
      (edited.document = none → edited.status = session.status) := by
  cases operation with
  -- only loads set a status of their own, and they bring a document
  | load document =>
    exact ⟨{ session with document := some document, status := some ⟨_, false⟩ }, rfl, nofun⟩
  | loadRead document =>
    cases document with
    | ok document =>
      exact ⟨{ session with document := some document, status := some ⟨_, false⟩ }, rfl, nofun⟩
    | error unread => cases succeeds
  | setRules rules =>
    simp only [perform, setRules] at succeeds ⊢
    cases made : RuleList.ofRules rules with
    | ok list => exact ⟨{ session with rules := list }, rfl, fun _ => rfl⟩
    | error fault => simp [made, finished, Except.map, Except.mapError] at succeeds
  | addRule rule =>
    simp only [perform, addRule] at succeeds ⊢
    cases made : session.rules.push rule with
    | ok list => exact ⟨{ session with rules := list }, rfl, fun _ => rfl⟩
    | error fault => simp [made, Except.map, Except.mapError] at succeeds
  | updateRule index rule =>
    simp only [perform, updateRule] at succeeds ⊢
    cases made : session.rules.replace index rule with
    | ok list => exact ⟨{ session with rules := list }, rfl, fun _ => rfl⟩
    | error fault => simp [made, finished, Except.map, Except.mapError] at succeeds
  | removeRule index =>
    simp only [perform, removeRule] at succeeds ⊢
    cases made : rulesWithout session.rules index with
    | ok list => exact ⟨{ session with rules := list }, rfl, fun _ => rfl⟩
    | error fault => simp [made, finished, Except.map, Except.mapError] at succeeds
  | setPageSize size => exact ⟨_, rfl, fun _ => rfl⟩
  | setPagingEnabled enabled => exact ⟨_, rfl, fun _ => rfl⟩
  | refilter => exact ⟨session, rfl, fun _ => rfl⟩
  | goTo page => cases edits
  | nextPage => cases edits
  | previousPage => cases edits
  | jumpTo text => cases edits

/--
After an edit, or a load, that succeeds the status tells of an error exactly if the run refused a
pattern, unless there is no document and the status told of an error before.
-/
theorem status_after_edit {session : Session} (reached : Reachable session)
    {operation : Operation} {answer : Answer} (edits : operation.turnsPage = false)
    (succeeds : (session.perform operation).2 = .ok answer) :
    (session.perform operation).1.TellsRun ↔
      (session.perform operation).1.document.isSome ∨ session.tellsError = false := by
  have sync := (reached.step operation).inSync
  obtain ⟨edited, same, kept⟩ := exists_refilter_of_ok edits succeeds
  rw [same] at sync ⊢
  cases loaded : edited.document with
  | some document =>
    have viewed : edited.refilter.document.isSome = true := by simp [loaded]
    exact ⟨fun _ => .inl viewed, fun _ => tellsRun_refilter loaded⟩
  | none =>
    -- nothing was filtered: the run refused nothing, and the status is the one before
    rw [refilter_of_none edited loaded] at sync ⊢
    have idle := (inSync_of_none loaded).mp sync
    have accepted : edited.run.refused = [] := by rw [idle]; rfl
    rw [tellsRun_of_accepted accepted, tellsError, tellsError, kept loaded, loaded]
    simp

/-- A session that was given more rules than it can hold, with or without a document. -/
def overfilled (document : Option Document) (rule : Rule) : Session :=
  let opened := match document with
    | some document => (blank.perform (.load document)).1
    | none => blank
  (opened.perform (.setRules (List.replicate (maxRules + 1) rule))).1

theorem reachable_overfilled (document : Option Document) (rule : Rule) :
    Reachable (overfilled document rule) := by
  cases document with
  | some document => exact ((Reachable.fresh .blank).step (.load document)).step _
  | none => exact (Reachable.fresh .blank).step _

/-- With a document, rules that fit take the error away that too many left. -/
theorem status_after_fewer_rules :
    (overfilled (some ⟨"app.log", [⟨1, "a"⟩]⟩) (.ofKind .contains "a")).tellsError = true ∧
      ((overfilled (some ⟨"app.log", [⟨1, "a"⟩]⟩) (.ofKind .contains "a")).perform
        (.setRules [.ofKind .contains "a"])).1.TellsRun := by
  have reached := reachable_overfilled (some ⟨"app.log", [⟨1, "a"⟩]⟩) (.ofKind .contains "a")
  have succeeds : ((overfilled (some ⟨"app.log", [⟨1, "a"⟩]⟩) (.ofKind .contains "a")).perform
      (.setRules [.ofKind .contains "a"])).2 = .ok .done := rfl
  exact ⟨rfl, (status_after_edit reached rfl succeeds).mpr (.inl rfl)⟩

/-- Without a document they do not: the limit is still told when one rule is set. -/
theorem limit_told_of_one_rule :
    Reachable (overfilled none (.ofKind .contains "a")) ∧
      ((overfilled none (.ofKind .contains "a")).perform
        (.setRules [.ofKind .contains "a"])).2 = .ok .done ∧
      ((overfilled none (.ofKind .contains "a")).perform
        (.setRules [.ofKind .contains "a"])).1.run.refused = [] ∧
      ((overfilled none (.ofKind .contains "a")).perform
        (.setRules [.ofKind .contains "a"])).1.status =
          some ⟨"Rule limit reached: at most 8 rules", true⟩ ∧
      ¬ ((overfilled none (.ofKind .contains "a")).perform
        (.setRules [.ofKind .contains "a"])).1.TellsRun := by
  refine ⟨reachable_overfilled _ _, rfl, rfl, rfl, ?_⟩
  intro tells
  have accepted := (tellsRun_of_accepted rfl).mp tells
  exact absurd accepted (by decide)

/-- If the run refused a pattern, the status tells of an error. -/
def TellsRefused (session : Session) : Prop :=
  session.run.refused ≠ [] → session.tellsError = true

theorem TellsRun.tellsRefused {session : Session} (tells : session.TellsRun) :
    session.TellsRefused := tells.1.mpr

theorem tellsRefused_of_idle {session : Session} (idle : session.run = .idle) :
    session.TellsRefused := by
  intro refused
  rw [idle] at refused
  exact absurd rfl refused

/-- An operation that is refused keeps the run; what it puts into the status is an error. -/
theorem tellsRefused_afterRefusal {session : Session} (tells : session.TellsRefused)
    (operation : Operation) (fault : SessionFault) :
    (session.afterRefusal operation fault).TellsRefused := by
  intro refused
  unfold afterRefusal tellsError
  cases operation.reportsFault with
  | true => rfl
  | false => exact tells refused

theorem Outcome.tellsRefused {session : Session}
    {result : Session × Except SessionFault Answer} (outcome : Outcome session true result)
    (tells : session.TellsRefused) : result.1.TellsRefused := by
  cases outcome with
  | turned page answer => exact tells
  | stayed answer => exact tells

theorem tellsRefused_perform {session : Session} (reached : Reachable session)
    (tells : session.TellsRefused) (operation : Operation) :
    (session.perform operation).1.TellsRefused := by
  cases refusal : session.refusal? operation with
  | some fault =>
    rw [perform_of_refusal refusal]
    exact tellsRefused_afterRefusal tells operation fault
  | none =>
    cases turns : operation.turnsPage with
    | true => exact (turns ▸ outcome_perform session operation).tellsRefused tells
    | false =>
      obtain ⟨answer, succeeds⟩ := perform_of_no_refusal refusal
      obtain ⟨edited, same, -⟩ := exists_refilter_of_ok turns succeeds
      -- without a document the status is left alone, but then nothing is refused
      have sync := (reached.step operation).inSync
      rw [same] at sync ⊢
      cases loaded : edited.document with
      | some document => exact (tellsRun_refilter loaded).tellsRefused
      | none =>
        rw [refilter_of_none edited loaded] at sync ⊢
        exact tellsRefused_of_idle ((inSync_of_none loaded).mp sync)

/-- As long as a pattern is refused, the status tells of an error, whatever was done since. -/
theorem status_of_refused {session : Session} (reached : Reachable session) :
    session.run.refused ≠ [] → session.status.any Status.isError = true := by
  induction reached with
  | fresh start => exact tellsRefused_of_idle start.idle.2
  | step reached operation ih => exact tellsRefused_perform reached ih operation

/-- A session whose rule is refused, and that is then asked for a page and for too many rules. -/
def misruled (rule : Rule) : Session :=
  ((((blank.perform (.addRule rule)).1.perform (.load ⟨"app.log", [⟨1, "a"⟩]⟩)).1.perform
    (.goTo 7)).1.perform (.setRules (List.replicate (maxRules + 1) rule))).1

/-- The load tells the refused pattern, and the limit takes its place but is an error too. -/
theorem status_of_open_group :
    (misruled (.ofKind .regex "(")).run.refused ≠ [] ∧
      (misruled (.ofKind .regex "(")).status.any Status.isError = true := by
  have reached : Reachable (misruled (.ofKind .regex "(")) :=
    ((((Reachable.fresh .blank).step _).step _).step _).step _
  have refused : (misruled (.ofKind .regex "(")).run.refused ≠ [] := by decide +kernel
  exact ⟨refused, status_of_refused reached refused⟩

end Session
end LogView
