import LogView.Pattern.Reader.Class
import LogView.Pattern.Reader.Count
import LogView.Pattern.Reader.Group

/-!
# Reading the text of a pattern

A pattern is read part by part.  Each opening parenthesis sets aside what was read so far, and
each closing one puts the group behind it.  A pattern that is read to its end is refused if its
parts sit too deep.
-/

namespace LogView
namespace Pattern
namespace Reader

/-- The alternatives that are complete and the items of the last one, all last first. -/
structure Branch where
  alternatives : List Expr
  items : List Expr
  deriving Repr, DecidableEq

namespace Branch

def start : Branch := ⟨[], []⟩

def add (branch : Branch) (item : Expr) : Branch :=
  { branch with items := item :: branch.items }

def next (branch : Branch) : Branch :=
  ⟨Expr.ofItems branch.items.reverse :: branch.alternatives, []⟩

def close (branch : Branch) : Expr :=
  Expr.ofAlternatives (Expr.ofItems branch.items.reverse :: branch.alternatives).reverse

end Branch

/-- A group that is still open: its flags, and what was read before it. -/
structure OpenGroup where
  settings : Option FlagSettings
  before : Branch
  verbose : Bool
  deriving Repr, DecidableEq

structure SoFar where
  verbose : Bool
  branch : Branch
  groups : List OpenGroup
  names : List (List Char)
  deriving Repr, DecidableEq

namespace SoFar

def add (sofar : SoFar) (item : Expr) : SoFar :=
  { sofar with branch := sofar.branch.add item }

def openGroup (sofar : SoFar) (settings : Option FlagSettings) : SoFar :=
  { sofar with
    verbose := (settings.bind (·.state? .verbose)).getD sofar.verbose
    branch := .start
    groups := ⟨settings, sofar.branch, sofar.verbose⟩ :: sofar.groups }

def openWith (sofar : SoFar) : Opening → Except Fault SoFar
  | .group settings => .ok (sofar.openGroup settings)
  | .named name =>
    if sofar.names.contains name then .error .groupNameDuplicate
    else .ok { sofar.openGroup none with names := name :: sofar.names }
  | .flags settings =>
    .ok { sofar.add (.flags settings) with
      verbose := (settings.state? .verbose).getD sofar.verbose }

def closeGroup (sofar : SoFar) : Except Fault SoFar :=
  match sofar.groups with
  | [] => .error .groupUnopened
  | group :: groups =>
    .ok { sofar with
      verbose := group.verbose
      branch := group.before.add (.group group.settings sofar.branch.close)
      groups := groups }

/-- Takes off the last item, which a repetition repeats.  Flags cannot be repeated. -/
def takeRepeated (sofar : SoFar) : Except Fault (Expr × SoFar) :=
  match sofar.branch.items with
  | [] | .flags _ :: _ => .error .repetitionMissing
  | item :: items => .ok (item, { sofar with branch := { sofar.branch with items := items } })

def addRepetition (sofar : SoFar) (item : Expr) (count : Count) : SoFar :=
  sofar.add (.repeated item count.least count.most count.greedy)

def finish (sofar : SoFar) : Except Fault Expr :=
  if sofar.groups.isEmpty then .ok sofar.branch.close else .error .groupUnclosed

end SoFar

def readPart (sofar : SoFar) (c : Char) (rest : List Char) : Except Fault (Reading SoFar) :=
  if c = '(' then do
    let (opening, rest) ← readOpening sofar.verbose rest
    .ok (← sofar.openWith opening, rest)
  else if c = ')' then do .ok (← sofar.closeGroup, rest)
  else if c = '|' then .ok ({ sofar with branch := sofar.branch.next }, rest)
  else if c = '[' then do
    let (item, rest) ← readClass sofar.verbose rest
    .ok (sofar.add item, rest)
  else if c = '\x7b' then do
    let (item, before) ← sofar.takeRepeated
    let (count, rest) ← readCount sofar.verbose rest
    .ok (before.addRepetition item count, rest)
  else if c = '\\' then do
    let (atom, rest) ← readEscape sofar.verbose rest
    .ok (sofar.add atom.toExpr, rest)
  else
    match boundsOfSign? c with
    | some (least, most) => do
      let (item, before) ← sofar.takeRepeated
      let (isLazy, rest) := readLazy rest
      .ok (before.addRepetition item ⟨least, most, !isLazy⟩, rest)
    | none => .ok (sofar.add (plainAtom c).toExpr, rest)

def readParts : (fuel : Nat) → SoFar → List Char → Except Fault Expr
  | 0, sofar, _ => sofar.finish
  | fuel + 1, sofar, text =>
    match skip sofar.verbose text with
    | [] => sofar.finish
    | c :: rest => do
      let (sofar, rest) ← readPart sofar c rest
      readParts fuel sofar rest

end Reader

def Expr.read (text : List Char) : Except Fault Expr := do
  let expr ← Reader.readParts (text.length + 1) ⟨false, .start, [], []⟩ text
  if expr.depth .nothing ≤ maxDepth then .ok expr else .error .nestedTooDeep

end Pattern
end LogView
