import LogView.Rule.Basic

/-!
# Lists of rules

A list holds at most eight rules, in the order in which they apply.  Its first rule joins nothing;
every later rule joins the rules before it, by `and` unless it says otherwise.
-/

namespace LogView

def maxRules : Nat := 8

inductive ListFault where
  | full
  | noSuchRule (index length : Nat)
  deriving Repr, DecidableEq

def ListFault.message : ListFault → String
  | full => s!"Rule limit reached: at most {maxRules} rules"
  | noSuchRule index length => s!"No rule at position {index} (rule count is {length})"

/-- A rule that follows others. -/
def Rule.following (rule : Rule) : Rule :=
  { rule with join := some (rule.join.getD .and) }

/-- A rule that follows none. -/
def Rule.leading (rule : Rule) : Rule :=
  { rule with join := none }

structure RuleList where
  rules : List Rule
  deriving Repr, DecidableEq, Inhabited

namespace RuleList

def empty : RuleList := ⟨[]⟩

/-- Rules with the joins that their places ask for. -/
def rejoin : List Rule → List Rule
  | [] => []
  | first :: rest => first.leading :: rest.map Rule.following

def length (list : RuleList) : Nat := list.rules.length

def isFull (list : RuleList) : Bool := maxRules ≤ list.length

def get? (list : RuleList) (index : Nat) : Option Rule := list.rules[index]?

def ofRules (rules : List Rule) : Except ListFault RuleList :=
  if maxRules < rules.length then .error .full else .ok ⟨rejoin rules⟩

def push (list : RuleList) (rule : Rule) : Except ListFault RuleList :=
  if list.isFull then .error .full else .ok ⟨rejoin (list.rules ++ [rule])⟩

def replace (list : RuleList) (index : Nat) (rule : Rule) : Except ListFault RuleList :=
  if index < list.length then .ok ⟨rejoin (list.rules.set index rule)⟩
  else .error (.noSuchRule index list.length)

/-- Takes a rule out; gives it and the others. -/
def remove (list : RuleList) (index : Nat) : Except ListFault (Rule × RuleList) :=
  match list.get? index with
  | some rule => .ok (rule, ⟨rejoin (list.rules.eraseIdx index)⟩)
  | none => .error (.noSuchRule index list.length)

def active (list : RuleList) : List Rule :=
  list.rules.filter fun rule => !rule.isBlank

end RuleList

end LogView
