import LogView.Filter.Run
import LogView.Paging.Basic
import LogView.Rule.List
import LogView.Text.Quoted

/-!
# Diagnostics

While it works, a run tells what it does in records, each an event with its weight and the part of
the program that it comes from.  A record is written on one line: the weight, what happened, and
the values that belong to it.
-/

namespace LogView

/-- How much an event matters. -/
inductive Weight where
  | error
  | warn
  | info
  | debug
  | trace
  deriving Repr, DecidableEq, Inhabited

namespace Weight

def all : List Weight := [.error, .warn, .info, .debug, .trace]

def word : Weight → String
  | .error => "ERROR"
  | .warn => "WARN"
  | .info => "INFO"
  | .debug => "DEBUG"
  | .trace => "TRACE"

/-- The place of a weight, counted from one. -/
def rank (weight : Weight) : Nat := all.idxOf weight + 1

end Weight

inductive Event where
  | ruleCompiled (kind : Kind) (source : String) (caseSensitive : Bool)
  | ruleDropped (refused : RefusedPattern)
  | noRuleCompiled (active : Nat)
  | filterEvaluated (total kept rules : Nat)
  | highlightCompiled (source : String) (ignoreCase : Bool)
  | paginated (requested number totalPages size : Nat)
  | documentLoaded (name : String) (lines : Nat)
  | sessionFiltered (total filtered rules : Nat) (failed : Bool)
  | ruleRejected
  | pageSizeUnusable (value : String)
  | pageSelected (requested : String) (page : Nat)
  | configLoaded (path : String) (rules : Nat)
  | rulesDropped (message : String) (errors : Nat)
  deriving Repr, DecidableEq

namespace Event

def weight : Event → Weight
  | ruleDropped _ | pageSizeUnusable _ | rulesDropped _ _ => .warn
  | documentLoaded _ _ | pageSelected _ _ | configLoaded _ _ => .info
  | ruleCompiled _ _ _ | noRuleCompiled _ | filterEvaluated _ _ _ | highlightCompiled _ _
  | paginated _ _ _ _ | sessionFiltered _ _ _ _ | ruleRejected => .debug

def part : Event → String
  | ruleCompiled _ _ _ => "log_lens::predicate"
  | ruleDropped _ | noRuleCompiled _ | filterEvaluated _ _ _ => "log_lens::evaluator"
  | highlightCompiled _ _ => "log_lens::highlight"
  | paginated _ _ _ _ => "log_lens::paginate"
  | documentLoaded _ _ | sessionFiltered _ _ _ _ | ruleRejected => "log_lens::session"
  | pageSizeUnusable _ | pageSelected _ _ | configLoaded _ _ | rulesDropped _ _ => "log_lens"

def title : Event → String
  | ruleCompiled _ _ _ => "compiled rule"
  | ruleDropped _ => "dropping invalid rule"
  | noRuleCompiled _ => "no rule compiled, filter run failed"
  | filterEvaluated _ _ _ => "filter evaluated"
  | highlightCompiled _ _ => "compiled highlight pattern"
  | paginated _ _ _ _ => "paginated"
  | documentLoaded _ _ => "document loaded"
  | sessionFiltered _ _ _ _ => "session refiltered"
  | ruleRejected => "rule rejected, set is full"
  | pageSizeUnusable _ => "unusable page size, using default"
  | pageSelected _ _ => "page selected"
  | configLoaded _ _ => "config loaded"
  | rulesDropped message _ => "filtered with some rules dropped: " ++ message

/-- The values that belong to an event, by name. -/
def fields : Event → List (String × String)
  | ruleCompiled kind source caseSensitive =>
    [("kind", kind.name), ("source", source), ("case_sensitive", toString caseSensitive)]
  | ruleDropped refused => [("pattern", refused.pattern), ("error", refused.fault.message)]
  | noRuleCompiled active => [("active", toString active)]
  | filterEvaluated total kept rules =>
    [("total", toString total), ("kept", toString kept), ("rules", toString rules)]
  | highlightCompiled source ignoreCase =>
    [("source", source), ("case_insensitive", toString ignoreCase)]
  | paginated requested number totalPages size =>
    [("requested_page", toString requested), ("number", toString number),
     ("total_pages", toString totalPages), ("size", toString size)]
  | documentLoaded name lines => [("name", Text.quoted name), ("lines", toString lines)]
  | sessionFiltered total filtered rules failed =>
    [("total", toString total), ("filtered", toString filtered), ("rules", toString rules),
     ("failed", toString failed)]
  | ruleRejected => [("max", toString maxRules)]
  | pageSizeUnusable value =>
    [("value", Text.quoted value), ("fallback", toString defaultPageSize)]
  | pageSelected requested page =>
    [("requested", Text.quoted requested), ("page", toString page)]
  | configLoaded path rules => [("path", path), ("rules", toString rules)]
  | rulesDropped _ errors => [("errors", toString errors)]

def record (event : Event) : String :=
  String.intercalate " "
    (event.weight.word :: event.title ::
      event.fields.map fun (name, value) => name ++ "=" ++ value)

end Event

end LogView
