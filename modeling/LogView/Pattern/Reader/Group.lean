import LogView.Pattern.Reader.Escape
import LogView.Unicode.Property

/-!
# Groups and flags

A group may have a name, or flags that hold inside it; flags alone between parentheses hold for
the rest of the group that they stand in.
-/

namespace LogView
namespace Pattern
namespace Reader

/-- What an opening parenthesis begins.  A group without settings captures what it matches. -/
inductive Opening where
  | group (settings : Option FlagSettings)
  | named (name : List Char)
  | flags (settings : FlagSettings)
  deriving Repr, DecidableEq

def flagOfLetter? : Char → Option Flag
  | 'i' => some .ignoreCase
  | 'm' => some .multiLine
  | 's' => some .dotMatchesNewline
  | 'U' => some .swapGreed
  | 'u' => some .unicode
  | 'R' => some .crlf
  | 'x' => some .verbose
  | _ => none

/-- Flags read so far, last first, and where the hyphen that switches off stands. -/
structure FlagsSoFar where
  settings : FlagSettings
  negated : Bool
  dangling : Bool

def readFlags (sofar : FlagsSoFar) :
    List Char → Except Fault (Reading (FlagSettings × Char))
  | [] => .error .flagUnfinished
  | c :: rest =>
    if c = ':' || c = ')' then
      if sofar.dangling then .error .flagDanglingNegation
      else .ok ((sofar.settings.reverse, c), rest)
    else if c = '-' then
      if sofar.negated then .error .flagRepeatedNegation
      else readFlags { sofar with negated := true, dangling := true } rest
    else
      match flagOfLetter? c with
      | none => .error .flagUnrecognized
      | some flag =>
        if sofar.settings.any fun setting => setting.1 == flag then .error .flagDuplicate
        else readFlags ⟨(flag, !sofar.negated) :: sofar.settings, sofar.negated, false⟩ rest

def isNameChar (first : Bool) (c : Char) : Bool :=
  if first then c = '_' || Unicode.alphabetic.contains c
  else c = '_' || c = '.' || c = '[' || c = ']' || Unicode.alphanumericTable.contains c

def readName (rev : List Char) : List Char → Except Fault (Reading (List Char))
  | [] => .error .groupNameUnfinished
  | c :: rest =>
    if c = '>' then
      if rev.isEmpty then .error .groupNameEmpty else .ok (rev.reverse, rest)
    else if isNameChar rev.isEmpty c then readName (c :: rev) rest
    else .error .groupNameInvalid

/-- Reads flags after a question mark, and what they begin. -/
def readFlagGroup : List Char → Except Fault (Reading Opening)
  | [] => .error .groupUnclosed
  | text => do
    let ((settings, stop), rest) ← readFlags ⟨[], false, false⟩ text
    if stop = ':' then .ok (.group (some settings), rest)
    else if settings.isEmpty then .error .repetitionMissing
    else .ok (.flags settings, rest)

def readOpening (verbose : Bool) (text : List Char) : Except Fault (Reading Opening) :=
  match skip verbose text with
  | '?' :: '=' :: _ | '?' :: '!' :: _ => .error .lookAround
  | '?' :: '<' :: '=' :: _ | '?' :: '<' :: '!' :: _ => .error .lookAround
  | '?' :: 'P' :: '<' :: rest | '?' :: '<' :: rest => do
    let (name, rest) ← readName [] rest
    .ok (.named name, rest)
  | '?' :: rest => readFlagGroup rest
  | rest => .ok (.group none, rest)

end Reader
end Pattern
end LogView
