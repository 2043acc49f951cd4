import LogView.Command.Basic
import LogView.Config.File
import LogView.Diagnostics.Session

/-!
# Opening a session

A session is opened with a configuration, with the rules and the page of a command line, and with
the document that was read.  It has the rules of both, those of the configuration first; a page
size that cannot be used gives way to the standard one.
-/

namespace LogView

inductive OpeningFault where
  | configRules (fault : ListFault)
  | givenRules (fault : ListFault)
  | unread (unread : UnreadDocument)
  deriving Repr, DecidableEq

/-- The messages of a fault and of what caused it. -/
def OpeningFault.chain : OpeningFault → List String
  | configRules fault => ["Too many filter rules in config", fault.message]
  | givenRules fault =>
    ["Too many filter rules between config and command line", fault.message]
  | unread failed =>
    ["Failed to load log file '" ++ failed.path ++ "'", failed.message, failed.fault.message]

/-- A session that was opened, or why not, and what is told on the way. -/
structure Opening where
  events : List Event
  session : Except OpeningFault Session

namespace Opening

def ofSession (session : Session) : Opening := ⟨[], .ok session⟩

def andThen (opening : Opening) (next : Session → Opening) : Opening :=
  match opening.session with
  | .error fault => ⟨opening.events, .error fault⟩
  | .ok session =>
    let opened := next session
    ⟨opening.events ++ opened.events, opened.session⟩

/-- The session with the paging and the rules of a configuration. -/
def configured (config : ViewerConfig) : Opening :=
  ⟨[], (Session.withRules config.paging config.rules).mapError .configRules⟩

/-- The page size that is typed, or the standard one if it cannot be used. -/
def choosePageSize (typed : Option String) (session : Session) : Opening :=
  match typed with
  | none => .ofSession session
  | some text =>
    match typedPageSize? text with
    | some size => .ofSession (session.setPageSize (some size))
    | none => ⟨[.pageSizeUnusable text], .ok (session.setPageSize (some defaultPageSize))⟩

def choosePaging (noPaginate : Bool) (session : Session) : Opening :=
  .ofSession (if noPaginate then session.setPagingEnabled false else session)

def addRule (rule : Rule) (session : Session) : Opening :=
  match session.addRule rule with
  | (next, .ok _) => .ofSession next
  | (_, .error fault) => ⟨[.ruleRejected], .error (.givenRules fault)⟩

def addRules (rules : List Rule) (session : Session) : Opening :=
  rules.foldl (fun opening rule => opening.andThen (addRule rule)) (.ofSession session)

def load (document : Except UnreadDocument Document) (session : Session) : Opening :=
  match document with
  | .error unread => ⟨[], .error (.unread unread)⟩
  | .ok document =>
    let session := session.load document
    ⟨.documentLoaded document.name document.length :: session.filterEvents, .ok session⟩

def choosePage (typed : Option String) (session : Session) : Opening :=
  match typed with
  | none => .ofSession session
  | some text =>
    let (next, page) := session.jumpTo text
    ⟨[session.pageEvent, .pageSelected text page], .ok next⟩

end Opening

def Opening.ofOptions (config : ViewerConfig) (rules : List Rule) (pages : PageOptions)
    (document : Except UnreadDocument Document) : Opening :=
  ((((configured config).andThen (choosePageSize pages.pageSize)).andThen
    (choosePaging pages.noPaginate)).andThen (addRules rules)).andThen (load document)
    |>.andThen (choosePage pages.page)

end LogView
