import LogView.Pattern.Expr
import LogView.Pattern.Fault
import LogView.Pattern.Reader.Layout
import LogView.Unicode.RangeTable

/-!
# Escapes

A backslash takes the meaning from a character that has one and gives one to some that have none.
Characters may be written by their number, in two, four or eight hexadecimal digits or between
braces.
-/

namespace LogView
namespace Pattern
namespace Reader

/-- A part of a pattern that has no parts. -/
inductive Atom where
  | literal (literal : Literal)
  | dot
  | mark (mark : Mark)
  | short (name : ShortClass) (negated : Bool)
  | property (query : PropertyQuery) (negated : Bool)
  deriving Repr, DecidableEq

def Atom.char (c : Char) : Atom := .literal ⟨c, false⟩

def Atom.toExpr : Atom → Expr
  | .literal l => .literal l
  | .dot => .dot
  | .mark m => .mark m
  | .short name negated => .short name negated
  | .property query negated => .property query negated

/-- What was read, and the text after it. -/
abbrev Reading (α : Type) := α × List Char

/-- The characters that mean something of their own in a pattern. -/
def isMeta (c : Char) : Bool :=
  c ∈ ['\\', '.', '+', '*', '?', '(', ')', '|', '[', ']', '\x7b', '\x7d', '^', '$', '#', '&', '-',
    '~']

/-- ASCII characters that stand for themselves after a backslash, meaningful or not. -/
def mayEscape (c : Char) : Bool :=
  c.toNat < 128 && !c.isAlphanum && c ≠ '<' && c ≠ '>'

def charOfNumber? (n : Nat) : Option Char :=
  if n.isValidChar then some (Char.ofNat n) else none

def readHexDigits (verbose : Bool) : (count : Nat) → (value : Nat) → List Char →
    Except Fault (Reading Nat)
  | 0, value, text => .ok (value, text)
  | count + 1, value, text =>
    match skip verbose text with
    | [] => .error .escapeUnfinished
    | c :: rest =>
      match Unicode.hexValue? c with
      | some digit => readHexDigits verbose count (value * 16 + digit) rest
      | none => .error .hexInvalidDigit

def readHexBraced (verbose : Bool) : (fuel : Nat) → (value : Option Nat) → List Char →
    Except Fault (Reading Nat)
  | 0, _, _ => .error .escapeUnfinished
  | fuel + 1, value, text =>
    match skip verbose text with
    | [] => .error .escapeUnfinished
    | '\x7d' :: rest =>
      match value with
      | some n => .ok (n, rest)
      | none => .error .hexEmpty
    | c :: rest =>
      match Unicode.hexValue? c with
      | some digit => readHexBraced verbose fuel (some (value.getD 0 * 16 + digit)) rest
      | none => .error .hexInvalidDigit

/-- The part that a character written by its number makes. -/
def numberedAtom (n : Nat) (asByte : Bool) : Except Fault Atom :=
  match charOfNumber? n with
  | some c => .ok (.literal ⟨c, asByte⟩)
  | none => .error .hexInvalid

/-- Reads the number of a character, after the letter that says how many digits it has. -/
def readHex (verbose : Bool) (digits : Nat) (text : List Char) : Except Fault (Reading Atom) := do
  match skip verbose text with
  | [] => .error .escapeUnfinished
  | '\x7b' :: rest =>
    let (n, rest) ← readHexBraced verbose (rest.length + 1) none rest
    .ok (← numberedAtom n false, rest)
  | text =>
    let (n, rest) ← readHexDigits verbose digits 0 text
    .ok (← numberedAtom n (digits = 2), rest)

/-- The text between braces, layout left out. -/
def readBraced (verbose : Bool) : (fuel : Nat) → (rev : List Char) → List Char →
    Except Fault (Reading (List Char))
  | 0, _, _ => .error .escapeUnfinished
  | fuel + 1, rev, text =>
    match skip verbose text with
    | [] => .error .escapeUnfinished
    | '\x7d' :: rest => .ok (rev.reverse, rest)
    | c :: rest => readBraced verbose fuel (c :: rev) rest

/-- Splits at the first place where `!=` stands. -/
def splitUnequal : List Char → Option (List Char × List Char)
  | '!' :: '=' :: rest => some ([], rest)
  | c :: rest => (splitUnequal rest).map fun (head, tail) => (c :: head, tail)
  | [] => none

/-- A query between braces is a name, or a name and a value. -/
def propertyQuery (text : List Char) : PropertyQuery :=
  match (splitUnequal text).or ((Text.splitOnce ':' text).or (Text.splitOnce '=' text)) with
  | some (name, value) => .valued (String.ofList name) (String.ofList value)
  | none => .named (String.ofList text)

def readProperty (verbose : Bool) (negated : Bool) (text : List Char) :
    Except Fault (Reading Atom) :=
  match skip verbose text with
  | [] => .error .escapeUnfinished
  | '\x7b' :: rest => do
    let (inner, rest) ← readBraced verbose (rest.length + 1) [] rest
    .ok (.property (propertyQuery inner) negated, rest)
  | '\\' :: _ => .error .unicodeClassInvalid
  | c :: rest => .ok (.property (.named (String.singleton c)) negated, rest)

/-- The letters that the name of a special word boundary is made of, layout left out. -/
def readBoundaryName (verbose : Bool) : (fuel : Nat) → (rev : List Char) → List Char →
    List Char × List Char
  | 0, rev, text => (rev.reverse, text)
  | fuel + 1, rev, text =>
    match text with
    | c :: rest =>
      if c.isAlpha || c = '-' then readBoundaryName verbose fuel (c :: rev) (skip verbose rest)
      else (rev.reverse, text)
    | [] => (rev.reverse, [])

def boundaryOfName? : List Char → Option Mark
  | ['s', 't', 'a', 'r', 't'] => some .wordStart
  | ['e', 'n', 'd'] => some .wordEnd
  | ['s', 't', 'a', 'r', 't', '-', 'h', 'a', 'l', 'f'] => some .wordStartHalf
  | ['e', 'n', 'd', '-', 'h', 'a', 'l', 'f'] => some .wordEndHalf
  | _ => none

/--
Reads what follows the letter of a word boundary.  An opening brace with a letter or a hyphen
after it opens a special boundary; any other brace is left for a counted repetition.
-/
def readBoundary (verbose : Bool) (text : List Char) : Except Fault (Reading Atom) :=
  match text with
  | '\x7b' :: rest =>
    match skip verbose rest with
    | [] => .error .boundaryUnfinished
    | c :: inner =>
      if c.isAlpha || c = '-' then
        match readBoundaryName verbose (inner.length + 1) [] (c :: inner) with
        | (name, '\x7d' :: rest) =>
          match boundaryOfName? name with
          | some mark => .ok (.mark mark, rest)
          | none => .error .boundaryUnrecognized
        | _ => .error .boundaryUnclosed
      else .ok (.mark .wordBoundary, text)
  | _ => .ok (.mark .wordBoundary, text)

/-- The meaning of a letter after a backslash, where it takes no more text. -/
def letterAtom? : Char → Option Atom
  | 'd' => some (.short .digit false)
  | 's' => some (.short .space false)
  | 'w' => some (.short .word false)
  | 'D' => some (.short .digit true)
  | 'S' => some (.short .space true)
  | 'W' => some (.short .word true)
  | 'a' => some (.char '\x07')
  | 'f' => some (.char '\x0c')
  | 't' => some (.char '\t')
  | 'n' => some (.char '\n')
  | 'r' => some (.char '\r')
  | 'v' => some (.char '\x0b')
  | 'A' => some (.mark .textStart)
  | 'z' => some (.mark .textEnd)
  | 'B' => some (.mark .notWordBoundary)
  | '<' => some (.mark .wordStart)
  | '>' => some (.mark .wordEnd)
  | _ => none

def readEscape (verbose : Bool) : List Char → Except Fault (Reading Atom)
  | [] => .error .escapeUnfinished
  | c :: rest =>
    if mayEscape c then .ok (.char c, rest)
    else if c.isDigit then .error .backreference
    else if c = 'x' then readHex verbose 2 rest
    else if c = 'u' then readHex verbose 4 rest
    else if c = 'U' then readHex verbose 8 rest
    else if c = 'p' then readProperty verbose false rest
    else if c = 'P' then readProperty verbose true rest
    else if c = 'b' then readBoundary verbose rest
    else
      match letterAtom? c with
      | some atom => .ok (atom, rest)
      | none => .error .escapeUnrecognized

/-- The part that one unescaped character makes. -/
def plainAtom (c : Char) : Atom :=
  if c = '.' then .dot
  else if c = '^' then .mark .lineStart
  else if c = '$' then .mark .lineEnd
  else .char c

end Reader
end Pattern
end LogView
