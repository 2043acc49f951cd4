import LogView.Files
import LogView.Filter.Run
import LogView.Paging.Basic
import LogView.Rule.List

/-!
# Sessions

A session holds the document that is viewed, the rules, how paging is set, the page that is
shown, the outcome of the last filtering and a line of status.  Whatever changes what is shown
filters the whole document again and goes back to the first page; without a document nothing is
filtered.
-/

namespace LogView

structure Status where
  message : String
  isError : Bool
  deriving Repr, DecidableEq

structure Session where
  document : Option Document
  rules : RuleList
  paging : PagingSettings
  /-- The page last gone to. -/
  currentPage : Nat
  run : Run
  status : Option Status

namespace Session

/-- A session in which nothing was done, not even the first page gone to. -/
def blank : Session :=
  ⟨none, .empty, .standard, 0, .idle, none⟩

def withPaging (paging : PagingSettings) : Session :=
  { blank with paging := paging, currentPage := 1 }

def withRules (paging : PagingSettings) (rules : List Rule) : Except ListFault Session := do
  .ok { withPaging paging with rules := ← RuleList.ofRules rules }

def totalLines (session : Session) : Nat := (session.document.map Document.length).getD 0

def filteredLines (session : Session) : Nat := session.run.kept.length

/-- What a filtering makes of the status: its errors, or no error. -/
def statusAfter (run : Run) (status : Option Status) : Option Status :=
  match run.errorMessage? with
  | some message => some ⟨message, true⟩
  | none => status.filter fun status => !status.isError

/-- Filters the document again and goes back to the first page. -/
def refilter (session : Session) : Session :=
  match session.document with
  | none => session
  | some document =>
    let run := Run.ofRules document.lines session.rules.rules
    { session with run := run, currentPage := 1, status := statusAfter run session.status }

def reportFault (session : Session) (message : String) : Session :=
  { session with status := some ⟨message, true⟩ }

def load (session : Session) (document : Document) : Session :=
  refilter { session with
    document := some document
    status := some ⟨s!"Loaded {document.name}. Lines: {document.length}", false⟩ }

/-- Views the document that was read, or tells why none was. -/
def loadRead (session : Session) (document : Except UnreadDocument Document) :
    Session × Except UnreadDocument Unit :=
  match document with
  | .ok document => (session.load document, .ok ())
  | .error unread => (session.reportFault unread.message, .error unread)

def setRules (session : Session) (rules : List Rule) : Session × Except ListFault Unit :=
  match RuleList.ofRules rules with
  | .ok list => (refilter { session with rules := list }, .ok ())
  | .error fault => (session.reportFault fault.message, .error fault)

def addRule (session : Session) (rule : Rule) : Session × Except ListFault Nat :=
  match session.rules.push rule with
  | .ok list => (refilter { session with rules := list }, .ok session.rules.length)
  | .error fault => (session.reportFault fault.message, .error fault)

def updateRule (session : Session) (index : Nat) (rule : Rule) :
    Session × Except ListFault Unit :=
  match session.rules.replace index rule with
  | .ok list => (refilter { session with rules := list }, .ok ())
  | .error fault => (session, .error fault)

/-- The rules without one of them; the only rule is emptied instead, keeping its kind. -/
def rulesWithout (rules : RuleList) (index : Nat) : Except ListFault RuleList :=
  if rules.length ≤ 1 then
    match rules.get? index with
    | some rule => rules.replace index (.ofKind rule.kind "")
    | none => .error (.noSuchRule index rules.length)
  else (rules.remove index).map (·.2)

def removeRule (session : Session) (index : Nat) : Session × Except ListFault Unit :=
  match rulesWithout session.rules index with
  | .ok list => (refilter { session with rules := list }, .ok ())
  | .error fault => (session, .error fault)

def setPageSize (session : Session) (size : Option Int) : Session :=
  refilter { session with paging := { session.paging with pageSize := size } }

def setPagingEnabled (session : Session) (enabled : Bool) : Session :=
  refilter { session with paging := { session.paging with enabled := enabled } }

def policy (session : Session) : PagePolicy := session.paging.policyFor session.totalLines

def page (session : Session) : Page :=
  paginate session.run.kept session.policy session.currentPage

def goTo (session : Session) (requested : Int) : Session :=
  { session with currentPage := clampPage requested session.page.totalPages }

def nextPage (session : Session) : Session := session.goTo (session.page.number + 1)

def previousPage (session : Session) : Session := session.goTo (session.page.number - 1)

/-- Goes to the page that was typed; gives the page then shown.  Any other text changes nothing. -/
def jumpTo (session : Session) (text : String) : Session × Nat :=
  match typedPageRequest? text with
  | some requested =>
    let session := session.goTo requested
    (session, session.currentPage)
  | none => (session, session.page.number)

/-- What to show in place of lines, if there are none. -/
def placeholder? (session : Session) : Option String :=
  if session.document.isNone then some "Load a file to start"
  else if session.run.kept.isEmpty then some "No matches"
  else none

end Session

end LogView
