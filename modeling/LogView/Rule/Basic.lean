import LogView.Text.Blank

/-!
# Filter rules

A rule is a condition on a line: how it tests, the text that it tests with, whether case counts,
and how it joins the rules before it.  White space around the text of a rule does not count, and
a rule with nothing else in its text is blank: it says nothing.
-/

namespace LogView

/-- How a rule joins the rules before it. -/
inductive Join where
  | and
  | or
  deriving Repr, DecidableEq, Inhabited

def Join.name : Join → String
  | .and => "and"
  | .or => "or"

/-- How a rule tests a line. -/
inductive Kind where
  | contains
  | lacks
  | startsWith
  | endsWith
  | regex
  deriving Repr, DecidableEq, Inhabited

namespace Kind

def name : Kind → String
  | .contains => "include"
  | .lacks => "exclude"
  | .startsWith => "starts_with"
  | .endsWith => "ends_with"
  | .regex => "regex"

def shortNames : Kind → List String
  | .contains => ["inc", "i"]
  | .lacks => ["exc", "x"]
  | .startsWith => ["starts", "s"]
  | .endsWith => ["ends", "e"]
  | .regex => ["re", "r"]

def all : List Kind := [.contains, .lacks, .startsWith, .endsWith, .regex]

/-- The kind with a name, without regard to case; lowering ASCII will do, as no name has a `k`. -/
def ofName? (name : String) : Option Kind :=
  let plain := Text.lowerAscii name
  all.find? fun kind => plain = kind.name || kind.shortNames.contains plain

/-- Whether a rule of this kind asks for something, and does not bar it. -/
def asks : Kind → Bool
  | .lacks => false
  | _ => true

end Kind

structure Rule where
  join : Option Join
  kind : Kind
  pattern : String
  caseSensitive : Bool
  deriving Repr, DecidableEq, Inhabited

namespace Rule

def ofKind (kind : Kind) (pattern : String) : Rule :=
  ⟨none, kind, pattern, false⟩

def silent : Rule := .ofKind .contains ""

def joined (rule : Rule) (join : Join) : Rule :=
  { rule with join := some join }

def trimmed (rule : Rule) : String := Text.trim rule.pattern

def isBlank (rule : Rule) : Bool := rule.trimmed.isEmpty

end Rule

end LogView
