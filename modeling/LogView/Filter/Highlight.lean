import LogView.Filter.Predicate

/-!
# What is highlighted

One pattern marks what the rules ask for: the choice of the patterns of all rules that are not
blank and bar nothing, each between parentheses.  It ignores case as soon as one of these rules
does.
-/

namespace LogView

def Rule.isHighlighted (rule : Rule) : Bool :=
  !rule.isBlank && rule.kind.asks

def Rule.highlightSource (rule : Rule) : String :=
  "(" ++ rule.kind.patternSource rule.trimmed ++ ")"

/-- The pattern that marks what rules ask for, if any asks for something. -/
def highlight (rules : List Rule) : Except RefusedPattern (Option Pattern) :=
  match rules.filter Rule.isHighlighted with
  | [] => .ok none
  | marked =>
    let source := String.intercalate "|" (marked.map Rule.highlightSource)
    match Pattern.ofSource source (marked.any fun rule => !rule.caseSensitive) with
    | .ok pattern => .ok (some pattern)
    | .error fault => .error ⟨source, fault⟩

end LogView
