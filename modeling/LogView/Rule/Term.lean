import LogView.Rule.Basic

/-!
# Terms

A rule is written as a term `[and:|or:]kind[/c]:pattern`.  Names may be in any case and have white
space around them; everything after the colon of the kind is the pattern.
-/

namespace LogView

inductive TermFault where
  /-- There is no colon. -/
  | noKind (term : String)
  /-- After a join there is no further colon. -/
  | noKindAfterJoin (join term : String)
  | unknownKind (name : String)
  | unknownModifier (name : String)
  | emptyPattern (kind : Kind)
  deriving Repr, DecidableEq

namespace TermFault

def message : TermFault → String
  | noKind term => "Invalid rule term: Expected 'kind:pattern' format, got: " ++ term
  | noKindAfterJoin join term =>
    "Invalid rule term: Expected '" ++ join ++ ":kind:pattern' format, got: " ++ term
  | unknownKind name =>
    "Unknown rule kind: '" ++ name ++ "'. Valid kinds are: include (i), exclude (x), " ++
      "starts_with (s), ends_with (e), regex (r)"
  | unknownModifier name =>
    "Unknown rule modifier: '" ++ name ++ "'. The only modifier is '/c' (case-sensitive)"
  | emptyPattern kind => "Empty pattern for rule kind '" ++ kind.name ++ "'"

end TermFault

/-- The join that a word names, without regard to case; lowering ASCII will do here as well. -/
def Join.ofName? (name : String) : Option Join :=
  let plain := Text.lowerAscii name
  if plain = "and" then some .and else if plain = "or" then some .or else none

namespace Rule

structure TermParts where
  join : Option Join
  head : List Char
  pattern : List Char
  deriving Repr, DecidableEq

/-- Cuts a term at its first colon, or at its second one if the first follows a join. -/
def TermParts.ofTerm (term : String) : Except TermFault TermParts :=
  match Text.splitOnce ':' term.toList with
  | none => .error (.noKind term)
  | some (head, rest) =>
    match Join.ofName? (Text.trim (String.ofList head)) with
    | none => .ok ⟨none, head, rest⟩
    | some join =>
      match Text.splitOnce ':' rest with
      | none => .error (.noKindAfterJoin (String.ofList head) term)
      | some (head, rest) => .ok ⟨some join, head, rest⟩

def readKind (name : String) : Except TermFault Kind :=
  match Kind.ofName? name with
  | some kind => .ok kind
  | none => .error (.unknownKind name)

/-- Reads what follows the slash of a kind: it says that case counts. -/
def readModifier (text : List Char) : Except TermFault Bool :=
  let name := Text.trim (String.ofList text)
  let plain := Text.lowerAscii name
  if plain = "c" || plain = "cs" then .ok true else .error (.unknownModifier name)

def readHead (head : List Char) : Except TermFault (Kind × Bool) :=
  match Text.splitOnce '/' head with
  | some (name, modifier) => do
    let kind ← readKind (Text.trim (String.ofList name))
    .ok (kind, ← readModifier modifier)
  | none => do .ok (← readKind (Text.trim (String.ofList head)), false)

def ofTerm (term : String) : Except TermFault Rule := do
  let parts ← TermParts.ofTerm term
  let (kind, caseSensitive) ← readHead parts.head
  let pattern := String.ofList parts.pattern
  if (Text.trim pattern).isEmpty then .error (.emptyPattern kind)
  else .ok ⟨parts.join, kind, pattern, caseSensitive⟩

def toTerm (rule : Rule) : String :=
  let join := match rule.join with
    | some join => join.name ++ ":"
    | none => ""
  join ++ rule.kind.name ++ (if rule.caseSensitive then "/c" else "") ++ ":" ++ rule.pattern

end Rule

end LogView
