import LogView.Diagnostics.Event
import LogView.Session.Basic

/-!
# What a session tells

Every filtering of a document tells which rules made a test, what was kept, and what is
highlighted; every look at the page tells which page it is.  These events follow from the session
alone.
-/

namespace LogView

/-- What is told when a rule is made a test. -/
def Rule.events (rule : Rule) : List Event :=
  match rule.compile with
  | .ok (some test) => [.ruleCompiled rule.kind test.pattern.source rule.caseSensitive]
  | .ok none => []
  | .error refused => [.ruleDropped refused]

def Tests.events (tests : Tests) (total kept : Nat) : List Event :=
  if tests.isFailed then [.noRuleCompiled tests.active]
  else [.filterEvaluated total kept tests.count]

namespace Session

def filterEvents (session : Session) : List Event :=
  let total := session.totalLines
  let kept := session.filteredLines
  let highlighted := session.run.highlight.toList.map fun pattern =>
    Event.highlightCompiled pattern.source pattern.ignoreCase
  session.rules.rules.flatMap Rule.events ++
    (Tests.ofRules session.rules.rules).events total kept ++ highlighted ++
    [.sessionFiltered total kept session.rules.active.length session.run.failed]

def pageEvent (session : Session) : Event :=
  let page := session.page
  .paginated session.currentPage page.number page.totalPages page.size

end Session

end LogView
