import LogView.Session.Basic

/-!
# Operations on a session

Everything that can be done to a session is an operation.  An operation gives the next session and
an answer or a fault.  The sessions that can be reached are those that operations lead to from
one in which nothing was done.
-/

namespace LogView

inductive Operation where
  | load (document : Document)
  | loadRead (document : Except UnreadDocument Document)
  | setRules (rules : List Rule)
  | addRule (rule : Rule)
  | updateRule (index : Nat) (rule : Rule)
  | removeRule (index : Nat)
  | setPageSize (size : Option Int)
  | setPagingEnabled (enabled : Bool)
  | refilter
  | goTo (page : Int)
  | nextPage
  | previousPage
  | jumpTo (text : String)

inductive Answer where
  | done
  | index (index : Nat)
  | page (number : Nat)
  deriving Repr, DecidableEq

inductive SessionFault where
  | unread (unread : UnreadDocument)
  | list (fault : ListFault)
  deriving Repr, DecidableEq

def SessionFault.message : SessionFault → String
  | unread fault => fault.message
  | list fault => fault.message

namespace Session

def finished {ε : Type} (wrap : ε → SessionFault) (outcome : Session × Except ε Unit) :
    Session × Except SessionFault Answer :=
  (outcome.1, (outcome.2.map fun _ => Answer.done).mapError wrap)

def perform (session : Session) : Operation → Session × Except SessionFault Answer
  | .load document => (session.load document, .ok .done)
  | .loadRead document => finished .unread (session.loadRead document)
  | .setRules rules => finished .list (session.setRules rules)
  | .addRule rule =>
    let (next, answer) := session.addRule rule
    (next, (answer.map Answer.index).mapError .list)
  | .updateRule index rule => finished .list (session.updateRule index rule)
  | .removeRule index => finished .list (session.removeRule index)
  | .setPageSize size => (session.setPageSize size, .ok .done)
  | .setPagingEnabled enabled => (session.setPagingEnabled enabled, .ok .done)
  | .refilter => (session.refilter, .ok .done)
  | .goTo page =>
    let next := session.goTo page
    (next, .ok (.page next.currentPage))
  | .nextPage => (session.nextPage, .ok (.page session.nextPage.currentPage))
  | .previousPage => (session.previousPage, .ok (.page session.previousPage.currentPage))
  | .jumpTo text =>
    let (next, page) := session.jumpTo text
    (next, .ok (.page page))

/-- The sessions in which nothing was done. -/
inductive Fresh : Session → Prop
  | blank : Fresh .blank
  | paging (settings : PagingSettings) : Fresh (.withPaging settings)
  | rules {settings : PagingSettings} {rules : List Rule} {session : Session}
      (made : withRules settings rules = .ok session) : Fresh session

/-- The sessions that operations lead to, whether they succeed or not. -/
inductive Reachable : Session → Prop
  | fresh {session : Session} (start : Fresh session) : Reachable session
  | step {session : Session} (reached : Reachable session) (operation : Operation) :
      Reachable (session.perform operation).1

end Session

end LogView
