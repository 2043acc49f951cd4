import LogView.Command.Opening
import LogView.Proofs.Rule.List
import LogView.Proofs.Session.InSync

/-!
# Sessions that are opened

A session is opened step by step, and no step before the last two has a document to filter.  What
is opened is the session that gets all rules in one list, the paging that the options leave of that
of the configuration, then the document, and then the page that is typed.
-/

namespace LogView

/-- The page size that is typed, if one is; the standard one if what is typed cannot be used. -/
def sizeOver (size : Option Int) : Option String → Option Int
  | none => size
  | some text => some ((typedPageSize? text).getD defaultPageSize)

/-- The paging that options leave of that of a configuration. -/
def PageOptions.pagingOver (pages : PageOptions) (settings : PagingSettings) : PagingSettings :=
  { settings with
    enabled := settings.enabled && !pages.noPaginate
    pageSize := sizeOver settings.pageSize pages.pageSize }

namespace Session

/-- A session that waits for a document. -/
def awaiting (paging : PagingSettings) (rules : RuleList) : Session :=
  { withPaging paging with rules := rules }

/-- A session that goes to the page that is typed, if there is one. -/
def turnedTo (session : Session) : Option String → Session
  | none => session
  | some text => (session.jumpTo text).1

theorem turnedTo_eq (session : Session) (typed : Option String) :
    session.turnedTo typed =
      { session with
        currentPage :=
          match typed.bind typedPageRequest? with
          | some requested => clampPage requested session.page.totalPages
          | none => session.currentPage } := by
  cases typed with
  | none => rfl
  | some text =>
    change (session.jumpTo text).1 = _
    unfold jumpTo
    rw [Option.bind_some]
    cases typedPageRequest? text <;> rfl

theorem withRules_eq_ok {paging : PagingSettings} {rules : List Rule} {session : Session} :
    withRules paging rules = .ok session ↔
      ∃ list, RuleList.ofRules rules = .ok list ∧ awaiting paging list = session := by
  unfold withRules awaiting
  cases RuleList.ofRules rules <;> simp [bind, Except.bind]

theorem Reachable.turnedTo {session : Session} (reached : session.Reachable)
    (typed : Option String) : (session.turnedTo typed).Reachable := by
  cases typed with
  | none => exact reached
  | some text => exact reached.step (.jumpTo text)

end Session

namespace Opening

theorem mapError_eq_ok {ε ε' α : Type} {outcome : Except ε α} {wrap : ε → ε'} {value : α} :
    outcome.mapError wrap = .ok value ↔ outcome = .ok value := by
  cases outcome <;> simp [Except.mapError]

theorem andThen_eq_ok {opening : Opening} {next : Session → Opening} {session : Session} :
    (opening.andThen next).session = .ok session ↔
      ∃ before, opening.session = .ok before ∧ (next before).session = .ok session := by
  unfold andThen
  cases opening.session <;> simp

theorem configured_eq_ok {config : ViewerConfig} {session : Session} :
    (configured config).session = .ok session ↔
      ∃ list, RuleList.ofRules config.rules = .ok list ∧
        Session.awaiting config.paging list = session := by
  rw [configured, mapError_eq_ok, Session.withRules_eq_ok]

theorem session_choosePageSize (typed : Option String) (paging : PagingSettings)
    (list : RuleList) :
    (choosePageSize typed (.awaiting paging list)).session =
      .ok (.awaiting { paging with pageSize := sizeOver paging.pageSize typed } list) := by
  cases typed with
  | none => rfl
  | some text =>
    unfold choosePageSize sizeOver
    dsimp only
    cases typedPageSize? text <;> rfl

theorem session_choosePaging (noPaginate : Bool) (paging : PagingSettings) (list : RuleList) :
    (choosePaging noPaginate (.awaiting paging list)).session =
      .ok (.awaiting { paging with enabled := paging.enabled && !noPaginate } list) := by
  cases noPaginate with
  | false => simp [choosePaging, ofSession]
  | true =>
    rw [Bool.not_true, Bool.and_false]
    rfl

theorem addRule_eq_ok {rule : Rule} {paging : PagingSettings} {list : RuleList}
    {session : Session} :
    (addRule rule (.awaiting paging list)).session = .ok session ↔
      ∃ next, list.push rule = .ok next ∧ Session.awaiting paging next = session := by
  have rules : (Session.awaiting paging list).rules = list := rfl
  unfold addRule Session.addRule
  rw [rules]
  cases list.push rule with
  | ok next =>
    have waits : Session.refilter { Session.awaiting paging list with rules := next } =
        Session.awaiting paging next := rfl
    simp [ofSession, waits]
  | error fault => simp

theorem ofSession_andThen (session : Session) (next : Session → Opening) :
    (ofSession session).andThen next = next session := rfl

theorem session_foldl_addRule (rules : List Rule) (opening : Opening) :
    (rules.foldl (fun opening rule => opening.andThen (addRule rule)) opening).session =
      (opening.andThen (addRules rules)).session := by
  induction rules generalizing opening with
  | nil => cases opened : opening.session <;> simp [andThen, addRules, ofSession, opened]
  | cons rule rules ih =>
    rw [List.foldl_cons, ih]
    cases opened : opening.session with
    | error fault => simp only [andThen, opened]
    | ok session =>
      -- the hypothesis is used twice: on what was opened, and on the session alone
      have rest : (addRules (rule :: rules) session).session =
          ((addRule rule session).andThen (addRules rules)).session := by
        rw [← ih, ← ofSession_andThen session (addRule rule)]
        rfl
      simp only [andThen, opened, rest]
      cases (addRule rule session).session <;> rfl

theorem addRules_eq_ok {rules : List Rule} {paging : PagingSettings} {list : RuleList}
    {session : Session} :
    (addRules rules (.awaiting paging list)).session = .ok session ↔
      ∃ next, rules.foldlM RuleList.push list = .ok next ∧
        Session.awaiting paging next = session := by
  induction rules generalizing list with
  | nil => simp [addRules, ofSession, pure, Except.pure]
  | cons rule rules ih =>
    have first : addRules (rule :: rules) (.awaiting paging list) =
        rules.foldl (fun opening rule => opening.andThen (addRule rule))
          (addRule rule (.awaiting paging list)) := rfl
    rw [first, session_foldl_addRule, andThen_eq_ok, List.foldlM_cons]
    constructor
    · rintro ⟨before, added, rest⟩
      obtain ⟨next, pushed, rfl⟩ := addRule_eq_ok.mp added
      rw [pushed]
      exact ih.mp rest
    · rintro ⟨last, pushes, waits⟩
      cases pushed : list.push rule with
      | error fault => simp [pushed, bind, Except.bind] at pushes
      | ok next =>
        rw [pushed] at pushes
        exact ⟨.awaiting paging next, addRule_eq_ok.mpr ⟨next, pushed, rfl⟩,
          ih.mpr ⟨last, pushes, waits⟩⟩

theorem load_eq_ok {document : Except UnreadDocument Document} {before session : Session} :
    (load document before).session = .ok session ↔
      ∃ read, document = .ok read ∧ before.load read = session := by
  unfold load
  cases document <;> simp

theorem session_choosePage (typed : Option String) (session : Session) :
    (choosePage typed session).session = .ok (session.turnedTo typed) := by
  cases typed <;> rfl

/--
What is opened step by step is the session with all rules in one list and the paging that the
options leave, which views the document and goes to the page that is typed.
-/
theorem ofOptions_eq_ok {config : ViewerConfig} {rules : List Rule} {pages : PageOptions}
    {document : Except UnreadDocument Document} {session : Session} :
    (ofOptions config rules pages document).session = .ok session ↔
      ∃ list read, RuleList.ofRules (config.rules ++ rules) = .ok list ∧ document = .ok read ∧
        ((Session.awaiting (pages.pagingOver config.paging) list).load read).turnedTo pages.page =
          session := by
  unfold ofOptions
  constructor
  · intro opened
    obtain ⟨viewing, opened, paged⟩ := andThen_eq_ok.mp opened
    obtain ⟨ruled, opened, loaded⟩ := andThen_eq_ok.mp opened
    obtain ⟨unruled, opened, added⟩ := andThen_eq_ok.mp opened
    obtain ⟨sized, opened, chosen⟩ := andThen_eq_ok.mp opened
    obtain ⟨configured, opened, sizes⟩ := andThen_eq_ok.mp opened
    obtain ⟨first, made, rfl⟩ := configured_eq_ok.mp opened
    rw [session_choosePageSize] at sizes
    cases sizes
    rw [session_choosePaging] at chosen
    cases chosen
    obtain ⟨list, pushed, rfl⟩ := addRules_eq_ok.mp added
    obtain ⟨read, found, rfl⟩ := load_eq_ok.mp loaded
    rw [session_choosePage] at paged
    cases paged
    exact ⟨list, read, RuleList.ofRules_append_eq_ok.mpr ⟨first, made, pushed⟩, found, rfl⟩
  · rintro ⟨list, read, made, found, rfl⟩
    obtain ⟨first, made, pushed⟩ := RuleList.ofRules_append_eq_ok.mp made
    apply andThen_eq_ok.mpr
    refine ⟨_, andThen_eq_ok.mpr ⟨_, andThen_eq_ok.mpr ⟨_, andThen_eq_ok.mpr ⟨_,
      andThen_eq_ok.mpr ⟨_, configured_eq_ok.mpr ⟨first, made, rfl⟩,
        session_choosePageSize _ _ _⟩, session_choosePaging _ _ _⟩,
      addRules_eq_ok.mpr ⟨list, pushed, rfl⟩⟩, load_eq_ok.mpr ⟨read, found, rfl⟩⟩, ?_⟩
    exact session_choosePage _ _

theorem reachable_ofOptions {config : ViewerConfig} {rules : List Rule} {pages : PageOptions}
    {document : Except UnreadDocument Document} {session : Session}
    (opened : (ofOptions config rules pages document).session = .ok session) :
    session.Reachable ∧ ∃ read, document = .ok read ∧ session.document = some read := by
  obtain ⟨list, read, made, found, rfl⟩ := ofOptions_eq_ok.mp opened
  have fresh : (Session.awaiting (pages.pagingOver config.paging) list).Reachable :=
    .fresh (.rules (Session.withRules_eq_ok.mpr ⟨list, made, rfl⟩))
  have viewed := (fresh.step (.load read)).turnedTo pages.page
  refine ⟨viewed, read, found, ?_⟩
  rw [Session.turnedTo_eq]
  exact Session.document_refilter _

end Opening
end LogView
