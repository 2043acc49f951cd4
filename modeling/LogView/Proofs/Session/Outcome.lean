import LogView.Proofs.Paging
import LogView.Session.Operation

/-!
# What operations come to

An operation that does not turn pages is either refused, and then touches nothing but the status,
or it filters again, perhaps with another document, other rules or other paging.  Turning pages
touches nothing but the page.
-/

namespace LogView

/-- Whether an operation only turns to a page. -/
def Operation.turnsPage : Operation → Bool
  | .goTo _ | .nextPage | .previousPage | .jumpTo _ => true
  | _ => false

namespace Session

/-- What an operation can come to, `turns` telling whether it only turns to a page. -/
inductive Outcome (session : Session) : (turns : Bool) → Session × Except SessionFault Answer → Prop
  | refused (status : Option Status) (fault : SessionFault) :
      Outcome session false ({ session with status := status }, .error fault)
  /-- Once there is a document there always is one. -/
  | edited (document : Option Document) (rules : RuleList) (paging : PagingSettings)
      (status : Option Status) (answer : Answer)
      (stays : session.document.isSome → document.isSome) :
      Outcome session false
        (refilter ⟨document, rules, paging, session.currentPage, session.run, status⟩, .ok answer)
  | turned (page : Int) (answer : Answer) : Outcome session true (session.goTo page, .ok answer)
  | stayed (answer : Answer) : Outcome session true (session, .ok answer)

theorem outcome_loadRead (session : Session) (document : Except UnreadDocument Document) :
    Outcome session false (finished .unread (session.loadRead document)) := by
  cases document with
  | ok document => exact .edited (some document) session.rules session.paging _ _ fun _ => rfl
  | error unread => exact .refused _ _

theorem outcome_setRules (session : Session) (rules : List Rule) :
    Outcome session false (finished .list (session.setRules rules)) := by
  unfold setRules
  cases RuleList.ofRules rules with
  | ok list => exact .edited session.document list session.paging _ _ id
  | error fault => exact .refused _ _

theorem outcome_addRule (session : Session) (rule : Rule) :
    Outcome session false (session.perform (.addRule rule)) := by
  change Outcome session false
    ((session.addRule rule).1, ((session.addRule rule).2.map Answer.index).mapError .list)
  unfold addRule
  cases session.rules.push rule with
  | ok list => exact .edited session.document list session.paging _ _ id
  | error fault => exact .refused _ _

theorem outcome_updateRule (session : Session) (index : Nat) (rule : Rule) :
    Outcome session false (finished .list (session.updateRule index rule)) := by
  unfold updateRule
  cases session.rules.replace index rule with
  | ok list => exact .edited session.document list session.paging _ _ id
  | error fault => exact .refused session.status _

theorem outcome_removeRule (session : Session) (index : Nat) :
    Outcome session false (finished .list (session.removeRule index)) := by
  unfold removeRule
  cases rulesWithout session.rules index with
  | ok list => exact .edited session.document list session.paging _ _ id
  | error fault => exact .refused session.status _

theorem outcome_jumpTo (session : Session) (text : String) :
    Outcome session true (session.perform (.jumpTo text)) := by
  change Outcome session true ((session.jumpTo text).1, .ok (.page (session.jumpTo text).2))
  unfold jumpTo
  cases typedPageRequest? text with
  | some page => exact .turned page _
  | none => exact .stayed _

theorem outcome_perform (session : Session) (operation : Operation) :
    Outcome session operation.turnsPage (session.perform operation) := by
  cases operation with
  | load document => exact .edited (some document) session.rules session.paging _ _ fun _ => rfl
  | loadRead document => exact outcome_loadRead session document
  | setRules rules => exact outcome_setRules session rules
  | addRule rule => exact outcome_addRule session rule
  | updateRule index rule => exact outcome_updateRule session index rule
  | removeRule index => exact outcome_removeRule session index
  | setPageSize size => exact .edited session.document session.rules _ _ _ id
  | setPagingEnabled enabled => exact .edited session.document session.rules _ _ _ id
  | refilter => exact .edited session.document session.rules session.paging _ _ id
  | goTo page => exact .turned page _
  | nextPage => exact .turned _ _
  | previousPage => exact .turned _ _
  | jumpTo text => exact outcome_jumpTo session text

end Session

end LogView
