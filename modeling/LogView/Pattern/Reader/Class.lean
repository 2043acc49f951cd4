import LogView.Pattern.Reader.Escape

/-!
# Classes between brackets

A class lists characters, ranges and further classes.  `&&`, `--` and `~~` put together what was
listed on their left with what is listed on their right, from left to right.
-/

namespace LogView
namespace Pattern
namespace Reader

/-- What was read of a class: the left side of an operator, and the members listed since. -/
structure ClassSoFar where
  left : Option (SetOperator × SetExpr)
  members : List SetExpr

namespace ClassSoFar

def add (sofar : ClassSoFar) (member : SetExpr) : ClassSoFar :=
  { sofar with members := member :: sofar.members }

def close (sofar : ClassSoFar) : SetExpr :=
  let members := SetExpr.ofItems sofar.members.reverse
  match sofar.left with
  | some (operator, left) => .combined operator left members
  | none => members

/-- What was read becomes the left side of an operator. -/
def combine (sofar : ClassSoFar) (operator : SetOperator) : ClassSoFar :=
  ⟨some (operator, sofar.close), []⟩

end ClassSoFar

def asciiClassOfName? (name : List Char) : Option AsciiClass :=
  match String.ofList name with
  | "alnum" => some .alnum
  | "alpha" => some .alpha
  | "ascii" => some .ascii
  | "blank" => some .blank
  | "cntrl" => some .cntrl
  | "digit" => some .digit
  | "graph" => some .graph
  | "lower" => some .lower
  | "print" => some .print
  | "punct" => some .punct
  | "space" => some .space
  | "upper" => some .upper
  | "word" => some .word
  | "xdigit" => some .xdigit
  | _ => none

/-- Reads `:name:]` or `:^name:]`, after a bracket, if that is what stands there. -/
def readAsciiClass? : List Char → Option (SetExpr × List Char)
  | ':' :: rest =>
    let (negated, rest) := match rest with
      | '^' :: rest => (true, rest)
      | rest => (false, rest)
    match rest.dropWhile (· ≠ ':') with
    | ':' :: ']' :: after =>
      (asciiClassOfName? (rest.takeWhile (· ≠ ':'))).map fun name => (.ascii name negated, after)
    | _ => none
  | _ => none

def readClassAtom (verbose : Bool) : List Char → Except Fault (Reading Atom)
  | [] => .error .classUnclosed
  | '\\' :: rest => readEscape verbose rest
  | c :: rest => .ok (.char c, rest)

def Atom.toMember : Atom → Except Fault SetExpr
  | .literal l => .ok (.literal l)
  | .short name negated => .ok (.short name negated)
  | .property query negated => .ok (.property query negated)
  | .dot | .mark _ => .error .classEscapeInvalid

def Atom.toBound : Atom → Except Fault Literal
  | .literal l => .ok l
  | _ => .error .classRangeLiteral

/-- Reads a member that is no bracketed class: a range, a character or an escape. -/
def readMember (verbose : Bool) (text : List Char) : Except Fault (Reading SetExpr) := do
  let (atom, rest) ← readClassAtom verbose text
  match skip verbose rest with
  | [] => .error .classUnclosed
  | '-' :: after =>
    if peek verbose after = some ']' || peek verbose after = some '-' then
      .ok (← atom.toMember, '-' :: after)
    else
      match skip verbose after with
      | [] => .error .classUnclosed
      | after => do
        let (other, rest) ← readClassAtom verbose after
        let first ← atom.toBound
        let last ← other.toBound
        if first.char ≤ last.char then .ok (.range first last, rest)
        else .error .classRangeInvalid
  | rest => .ok (← atom.toMember, rest)

/-- Reads hyphens at the head of a class, which stand for themselves. -/
def readHyphens (verbose : Bool) : (fuel : Nat) → (members : List SetExpr) → List Char →
    Except Fault (Reading (List SetExpr))
  | 0, _, _ => .error .classUnclosed
  | fuel + 1, members, text =>
    match skip verbose text with
    | [] => .error .classUnclosed
    | '-' :: rest => readHyphens verbose fuel (.literal ⟨'-', false⟩ :: members) rest
    | text => .ok (members, text)

/--
Reads the head of a class, after its bracket: a caret that negates it, hyphens, and, before any
other member, a closing bracket that stands for itself.
-/
def readClassHead (verbose : Bool) (text : List Char) :
    Except Fault (Reading (Bool × List SetExpr)) := do
  let (negated, text) := match skip verbose text with
    | '^' :: rest => (true, rest)
    | text => (false, text)
  let (members, text) ← readHyphens verbose (text.length + 1) [] text
  match members, text with
  | [], ']' :: rest =>
    match skip verbose rest with
    | [] => .error .classUnclosed
    | rest => .ok ((negated, [.literal ⟨']', false⟩]), rest)
  | _, _ => .ok ((negated, members), text)

def readMembers (verbose : Bool) : (fuel : Nat) → ClassSoFar → List Char →
    Except Fault (Reading SetExpr)
  | 0, _, _ => .error .classUnclosed
  | fuel + 1, sofar, text =>
    match skip verbose text with
    | [] => .error .classUnclosed
    | ']' :: rest => .ok (sofar.close, rest)
    | '&' :: '&' :: rest => readMembers verbose fuel (sofar.combine .intersection) rest
    | '-' :: '-' :: rest => readMembers verbose fuel (sofar.combine .difference) rest
    | '~' :: '~' :: rest => readMembers verbose fuel (sofar.combine .symmetricDifference) rest
    | '[' :: rest =>
      match readAsciiClass? rest with
      | some (member, rest) => readMembers verbose fuel (sofar.add member) rest
      | none => do
        let ((negated, members), rest) ← readClassHead verbose rest
        let (inner, rest) ← readMembers verbose fuel ⟨none, members⟩ rest
        readMembers verbose fuel (sofar.add (.bracketed negated inner)) rest
    | text => do
      let (member, rest) ← readMember verbose text
      readMembers verbose fuel (sofar.add member) rest

def readClass (verbose : Bool) (text : List Char) : Except Fault (Reading Expr) := do
  let ((negated, members), rest) ← readClassHead verbose text
  let (inner, rest) ← readMembers verbose (rest.length + 1) ⟨none, members⟩ rest
  .ok (.bracketed negated inner, rest)

end Reader
end Pattern
end LogView
