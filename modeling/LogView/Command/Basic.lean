import LogView.Rule.Basic

/-!
# What is asked of a run

A run shows one page of a document, exports it, or counts its lines by severity.  It is told which
document, which rules and which page, and how and where to write what it makes.
-/

namespace LogView

/-- What a run makes. -/
inductive CommandName where
  | view
  | exportPage
  | stats
  deriving Repr, DecidableEq, Inhabited

namespace CommandName

def all : List CommandName := [.view, .exportPage, .stats]

def word : CommandName → String
  | .view => "view"
  | .exportPage => "export"
  | .stats => "stats"

/-- Whether a page can be chosen. -/
def hasPages : CommandName → Bool
  | .stats => false
  | _ => true

def ofWord? (word : String) : Option CommandName := all.find? fun name => name.word = word

end CommandName

/-- The form of what a run makes. -/
inductive OutputFormat where
  | text
  | html
  | json
  deriving Repr, DecidableEq, Inhabited

namespace OutputFormat

def word : OutputFormat → String
  | .text => "text"
  | .html => "html"
  | .json => "json"

def ofWord? (word : String) : Option OutputFormat :=
  [text, html, json].find? fun format => format.word = word

end OutputFormat

/-- When text is coloured. -/
inductive ColorChoice where
  | auto
  | always
  | never
  deriving Repr, DecidableEq, Inhabited

namespace ColorChoice

def word : ColorChoice → String
  | .auto => "auto"
  | .always => "always"
  | .never => "never"

def ofWord? (word : String) : Option ColorChoice :=
  [auto, always, never].find? fun choice => choice.word = word

end ColorChoice

/-- Which document, and the rules to filter it by. -/
structure FilterOptions where
  file : String
  rules : List Rule
  deriving Repr, DecidableEq, Inhabited

structure PageOptions where
  page : Option String := none
  pageSize : Option String := none
  noPaginate : Bool := false
  deriving Repr, DecidableEq, Inhabited

/-- All that is asked of a run. -/
structure Invocation where
  command : CommandName
  filter : FilterOptions
  pages : PageOptions
  config : Option String
  format : OutputFormat
  output : Option String
  color : ColorChoice
  verbose : Nat
  quiet : Bool
  deriving Repr, DecidableEq, Inhabited

end LogView
