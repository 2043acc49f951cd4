import LogView.Pattern.Match
import LogView.Pattern.Meaning
import LogView.Pattern.Reader.Text
import LogView.Pattern.Size

/-!
# Patterns

A pattern is read from its text, refused with a cause if it has none, and then tested against
lines.  `LogView.Pattern.quote` gives the text of a pattern that matches a literal text.
-/

namespace LogView

structure Pattern where
  /-- The text of the pattern. -/
  source : String
  ignoreCase : Bool
  node : Pattern.Node
  matcher : Pattern.Matcher
  /-- The matcher is the one of the node, made once. -/
  matcher_eq : matcher = node.matcher

namespace Pattern

def nodeOf (source : String) (ignoreCase : Bool) : Except Fault Node := do
  let expr ← Expr.read source.toList
  let (node, _) ← expr.meaning { ignoreCase := ignoreCase }
  if node.bytes ≤ maxBytes then .ok node else .error .tooLarge

def ofSource (source : String) (ignoreCase : Bool) : Except Fault Pattern := do
  let node ← nodeOf source ignoreCase
  .ok ⟨source, ignoreCase, node, node.matcher, rfl⟩

/-- Whether a pattern matches anywhere in a line. -/
def isMatch (pattern : Pattern) (text : String) : Bool :=
  pattern.matcher.isMatch text.toList.toArray

/-- The matches in a line that take at least one character, as places. -/
def spans (pattern : Pattern) (text : String) : List (Nat × Nat) :=
  pattern.matcher.spans text.toList.toArray

/-- A character as it is written to stand for itself. -/
def quoteChar (c : Char) : List Char :=
  if Reader.isMeta c then ['\\', c] else [c]

/-- The text of a pattern that matches a literal text. -/
def quote (text : String) : String :=
  String.ofList (text.toList.flatMap quoteChar)

end Pattern
end LogView
