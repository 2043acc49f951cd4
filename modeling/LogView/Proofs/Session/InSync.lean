import LogView.Proofs.Session.Outcome
import LogView.View.Lines

/-!
# Sessions in sync with their inputs

What a session shows is what its document, its rules and its paging ask for, whatever was done to
it before.  The page is the only trace of the past: it is the first one as long as nothing turned
pages after the last edit.
-/

namespace LogView
namespace Session

/--
The run is that of the document under the rules and the page is one that there is; without a
document nothing was filtered and an empty page is shown.
-/
def InSync (session : Session) : Prop :=
  match session.document with
  | some document =>
    session.run = Run.ofRules document.lines session.rules.rules ∧
      1 ≤ session.currentPage ∧ session.currentPage ≤ session.page.totalPages
  | none => session.run = .idle ∧ session.page = .vacant

theorem inSync_of_some {session : Session} {document : Document}
    (loaded : session.document = some document) :
    session.InSync ↔ session.run = Run.ofRules document.lines session.rules.rules ∧
      1 ≤ session.currentPage ∧ session.currentPage ≤ session.page.totalPages := by
  simp only [InSync, loaded]

theorem page_of_idle {session : Session} (unloaded : session.document = none)
    (idle : session.run = .idle) : session.page = .vacant := by
  have lines : session.totalLines = 0 := by simp [totalLines, unloaded]
  unfold page policy
  rw [idle, lines, PagingSettings.policyFor_zero]
  exact paginate_nil_single _

theorem inSync_of_none {session : Session} (unloaded : session.document = none) :
    session.InSync ↔ session.run = .idle := by
  simp only [InSync, unloaded]
  exact ⟨And.left, fun idle => ⟨idle, page_of_idle unloaded idle⟩⟩

theorem one_le_totalPages (session : Session) : 1 ≤ session.page.totalPages :=
  session.policy.one_le_totalPages _

theorem refilter_of_none (session : Session) (unloaded : session.document = none) :
    session.refilter = session := by
  simp only [refilter, unloaded]

@[simp] theorem document_refilter (session : Session) :
    session.refilter.document = session.document := by
  unfold refilter
  split <;> simp_all

@[simp] theorem rules_refilter (session : Session) : session.refilter.rules = session.rules := by
  unfold refilter
  split <;> rfl

theorem currentPage_refilter {session : Session} {document : Document}
    (loaded : session.document = some document) : session.refilter.currentPage = 1 := by
  simp only [refilter, loaded]

theorem run_refilter {session : Session} {document : Document}
    (loaded : session.document = some document) :
    session.refilter.run = Run.ofRules document.lines session.rules.rules := by
  simp only [refilter, loaded]

/-- Filtering again brings a session with a document in sync, whatever it showed before. -/
theorem inSync_refilter (session : Session) {document : Document}
    (loaded : session.document = some document) : session.refilter.InSync := by
  rw [inSync_of_some (session.document_refilter.trans loaded), rules_refilter]
  rw [currentPage_refilter loaded]
  exact ⟨run_refilter loaded, Nat.le_refl 1, one_le_totalPages _⟩

theorem inSync_goTo {session : Session} (sync : session.InSync) (page : Int) :
    (session.goTo page).InSync := by
  cases loaded : session.document with
  | none =>
    have turned : (session.goTo page).document = none := loaded
    exact (inSync_of_none turned).mpr ((inSync_of_none loaded).mp sync)
  | some document =>
    have turned : (session.goTo page).document = some document := loaded
    have run := ((inSync_of_some loaded).mp sync).1
    exact (inSync_of_some turned).mpr
      ⟨run, one_le_clampPage _ _, clampPage_le _ session.one_le_totalPages⟩

/-- What one operation keeps, whether it succeeds, is refused or turns pages. -/
theorem Outcome.inSync {session : Session} {turns : Bool}
    {result : Session × Except SessionFault Answer} (outcome : Outcome session turns result)
    (sync : session.InSync) : result.1.InSync := by
  cases outcome with
  | refused status fault => exact sync
  | edited document rules paging status answer stays =>
    cases document with
    | some document =>
      dsimp only
      exact inSync_refilter _ rfl
    | none =>
      have unloaded : session.document = none := by
        cases before : session.document with
        | none => rfl
        | some document => simp [before] at stays
      rw [refilter_of_none _ rfl, inSync_of_none rfl]
      exact (inSync_of_none unloaded).mp sync
  | turned page answer => exact inSync_goTo sync page
  | stayed answer => exact sync

theorem Fresh.idle {session : Session} (fresh : Fresh session) :
    session.document = none ∧ session.run = .idle := by
  cases fresh with
  | blank => exact ⟨rfl, rfl⟩
  | paging settings => exact ⟨rfl, rfl⟩
  | @rules settings rules _ made =>
    unfold withRules at made
    cases list : RuleList.ofRules rules with
    | error fault => simp [list, bind, Except.bind] at made
    | ok list =>
      rw [list] at made
      cases made
      exact ⟨rfl, rfl⟩

theorem Fresh.inSync {session : Session} (fresh : Fresh session) : session.InSync :=
  (inSync_of_none fresh.idle.1).mpr fresh.idle.2

theorem Reachable.inSync {session : Session} (reached : Reachable session) : session.InSync := by
  induction reached with
  | fresh start => exact start.inSync
  | step reached operation ih => exact (outcome_perform _ operation).inSync ih

/-- The sessions in which no page was turned since an edit, or a load, last succeeded. -/
inductive Settled : Session → Prop
  | edited {session : Session} {operation : Operation} {answer : Answer}
      (reached : Reachable session) (edits : operation.turnsPage = false)
      (succeeds : (session.perform operation).2 = .ok answer) :
      Settled (session.perform operation).1
  | kept {session : Session} {operation : Operation} (settled : Settled session)
      (stays : operation.turnsPage = false) : Settled (session.perform operation).1

theorem Settled.reachable {session : Session} (settled : Settled session) : Reachable session := by
  induction settled with
  | edited reached edits succeeds => exact reached.step _
  | kept settled stays ih => exact ih.step _

/-- The first page is shown, if there is a document to show. -/
def AtStart (session : Session) : Prop :=
  session.document.isSome → session.currentPage = 1

theorem atStart_refilter (session : Session) : session.refilter.AtStart := by
  intro viewed
  rw [document_refilter] at viewed
  obtain ⟨document, loaded⟩ := Option.isSome_iff_exists.mp viewed
  exact currentPage_refilter loaded

theorem Outcome.atStart_of_ok {session : Session} {answer : Answer}
    {result : Session × Except SessionFault Answer} (outcome : Outcome session false result)
    (succeeds : result.2 = .ok answer) : result.1.AtStart := by
  cases outcome with
  | refused status fault => cases succeeds
  | edited document rules paging status answer stays => exact atStart_refilter _

theorem Outcome.atStart {session : Session} {result : Session × Except SessionFault Answer}
    (outcome : Outcome session false result) (start : session.AtStart) : result.1.AtStart := by
  cases outcome with
  | refused status fault => exact start
  | edited document rules paging status answer stays => exact atStart_refilter _

theorem Settled.atStart {session : Session} (settled : Settled session) : session.AtStart := by
  induction settled with
  | @edited session operation _ _ edits succeeds =>
    exact (edits ▸ outcome_perform session operation).atStart_of_ok succeeds
  | @kept session operation _ stays ih =>
    exact (stays ▸ outcome_perform session operation).atStart ih

/-- Two sessions in sync at their start are told apart by nothing but their inputs. -/
theorem shown_eq_of_inputs {first second : Session} (sync : first.InSync) (sync' : second.InSync)
    (start : first.AtStart) (start' : second.AtStart)
    (documents : first.document = second.document) (rules : first.rules = second.rules)
    (paging : first.paging = second.paging) :
    first.run = second.run ∧ first.page = second.page := by
  cases loaded : first.document with
  | none =>
    have loaded' := documents.symm.trans loaded
    have idle := (inSync_of_none loaded).mp sync
    have idle' := (inSync_of_none loaded').mp sync'
    have pages := (page_of_idle loaded idle).trans (page_of_idle loaded' idle').symm
    exact ⟨idle.trans idle'.symm, pages⟩
  | some document =>
    have loaded' := documents.symm.trans loaded
    have run := ((inSync_of_some loaded).mp sync).1
    have run' := ((inSync_of_some loaded').mp sync').1
    have runs : first.run = second.run := by rw [run, run', rules]
    have pages : first.currentPage = second.currentPage :=
      (start (by simp [loaded])).trans (start' (by simp [loaded'])).symm
    refine ⟨runs, ?_⟩
    unfold page policy totalLines
    rw [runs, pages, paging, documents]

/--
Whatever was done to a session, it shows what its inputs ask for; and two settled sessions with
the same document, rules and paging show the same, in whatever order they came to them.
-/
theorem shown_of_inputs :
    (∀ session : Session, Reachable session → session.InSync) ∧
      ∀ first second : Session, Settled first → Settled second →
        first.document = second.document → first.rules = second.rules →
        first.paging = second.paging →
        first.page = second.page ∧ first.run = second.run ∧
          first.shownLines = second.shownLines := by
  refine ⟨fun session reached => reached.inSync, ?_⟩
  intro first second settled settled' documents rules paging
  obtain ⟨runs, pages⟩ := shown_eq_of_inputs settled.reachable.inSync settled'.reachable.inSync
    settled.atStart settled'.atStart documents rules paging
  refine ⟨pages, runs, ?_⟩
  unfold shownLines
  rw [runs, pages]

/-- A session that gets a document and then a rule. -/
def loadedThenRuled (document : Document) (rule : Rule) : Session :=
  ((blank.perform (.load document)).1.perform (.addRule rule)).1

/-- A session that gets a rule, is asked for another page, and then gets a document. -/
def ruledThenLoaded (document : Document) (rule : Rule) : Session :=
  (((blank.perform (.addRule rule)).1.perform .nextPage).1.perform (.load document)).1

theorem settled_loadedThenRuled (document : Document) (rule : Rule) :
    Settled (loadedThenRuled document rule) :=
  .edited ((Reachable.fresh .blank).step (.load document)) rfl rfl

theorem settled_ruledThenLoaded (document : Document) (rule : Rule) :
    Settled (ruledThenLoaded document rule) :=
  .edited (((Reachable.fresh .blank).step (.addRule rule)).step .nextPage) rfl rfl

/-- The order of loading and editing, and a page turned between them, leave no trace. -/
theorem shown_either_order :
    (loadedThenRuled ⟨"app.log", [⟨1, "a"⟩, ⟨2, "b"⟩]⟩ (.ofKind .contains "a")).InSync ∧
      (loadedThenRuled ⟨"app.log", [⟨1, "a"⟩, ⟨2, "b"⟩]⟩ (.ofKind .contains "a")).shownLines =
        (ruledThenLoaded ⟨"app.log", [⟨1, "a"⟩, ⟨2, "b"⟩]⟩ (.ofKind .contains "a")).shownLines :=
  ⟨shown_of_inputs.1 _ (settled_loadedThenRuled _ _).reachable,
    (shown_of_inputs.2 _ _ (settled_loadedThenRuled _ _) (settled_ruledThenLoaded _ _)
      rfl rfl rfl).2.2⟩

end Session
end LogView
