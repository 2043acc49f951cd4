import LogView.Config.Schema
import LogView.Paging.Basic
import LogView.Rule.Basic

/-!
# The configuration of the viewer

A configuration sets how paging works and the rules that a session begins with.  Each of its rules
joins the rules before it by `and` unless it says otherwise.
-/

namespace LogView

def Kind.byName : List (String × Kind) := Kind.all.map fun kind => (kind.name, kind)

def Join.byName : List (String × Join) := [.and, .or].map fun join => (join.name, join)

def PagingSettings.schema (dialect : Dialect) : Schema PagingSettings :=
  .record dialect "PaginationConfig" .standard
    [.of "enabled" (.flag dialect) fun on settings => { settings with enabled := on },
     .of "page_size" (.optional (.int64 dialect)) fun size settings =>
       { settings with pageSize := size },
     .of "single_page_threshold" (.count dialect) fun count settings =>
       { settings with singlePageThreshold := count }]

namespace Rule

def kindField (dialect : Dialect) : Schema.Field Rule :=
  .of "kind" (.choice dialect Kind.byName) fun kind rule => { rule with kind := kind }

def patternField (dialect : Dialect) : Schema.Field Rule :=
  .of "pattern" (.text dialect) fun pattern rule => { rule with pattern := pattern }

def caseField (dialect : Dialect) : Schema.Field Rule :=
  .of "case_sensitive" (.flag dialect) fun on rule => { rule with caseSensitive := on }

/-- Reads a rule that may join nothing. -/
def schema (dialect : Dialect) : Schema Rule :=
  .record dialect "Rule" silent
    [.of "join" (.optional (.choice dialect Join.byName)) fun join rule =>
       { rule with join := join },
     kindField dialect, patternField dialect, caseField dialect]

/-- Reads a rule of a configuration, which always joins the rules before it. -/
def configSchema (dialect : Dialect) : Schema Rule :=
  .record dialect "RuleConfig" (silent.joined .and)
    [kindField dialect, patternField dialect, caseField dialect,
     .of "join" (.choice dialect Join.byName) fun join rule => rule.joined join]

end Rule

structure ViewerConfig where
  paging : PagingSettings
  rules : List Rule
  deriving Repr, DecidableEq, Inhabited

namespace ViewerConfig

/-- The configuration that says nothing. -/
def standard : ViewerConfig := ⟨.standard, []⟩

def schema (dialect : Dialect) : Schema ViewerConfig :=
  .record dialect "ViewerConfig" standard
    [.of "pagination" (PagingSettings.schema dialect) fun paging config =>
       { config with paging := paging },
     .of "rules" (.list dialect (Rule.configSchema dialect)) fun rules config =>
       { config with rules := rules }]

end ViewerConfig

end LogView
