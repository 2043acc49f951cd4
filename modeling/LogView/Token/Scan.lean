import LogView.Token.Severity

/-!
# Dates, times and severities in a line

A token is a date such as `2024-03-01`, a time such as `10:00:00` with or without a fraction of
three digits, or the word for a severity.  It begins and ends at the edge of a word, where words
are made of ASCII letters, digits and underscores.  Tokens are looked for from left to right.
-/

namespace LogView

inductive Token where
  | date
  | time
  | level (severity : Severity)
  deriving Repr, DecidableEq

namespace Token

def isWordChar (c : Char) : Bool := c.isAlphanum || c == '_'

/-- Whether a text begins with no character of a word. -/
def endsWord : List Char → Bool
  | [] => true
  | c :: _ => !isWordChar c

/-- The text after one digit for each `d` and after the other characters of a shape. -/
def afterShape? : (shape : List Char) → List Char → Option (List Char)
  | [], text => some text
  | s :: shape, c :: text =>
    if (if s = 'd' then c.isDigit else c = s) then afterShape? shape text else none
  | _ :: _, [] => none

/-- Whether a text begins with a shape and a word ends after it. -/
def hasShape (shape : List Char) (text : List Char) : Bool :=
  (afterShape? shape text).any endsWord

def dateShape : List Char := "dddd-dd-dd".toList

def timeShape : List Char := "dd:dd:dd".toList

/-- The shapes of times, the preferred one first. -/
def timeShapes : List (List Char) :=
  [timeShape ++ ".ddd".toList, timeShape ++ ",ddd".toList, timeShape]

def dateLength? (text : List Char) : Option Nat :=
  if hasShape dateShape text then some dateShape.length else none

def timeLength? (text : List Char) : Option Nat :=
  (timeShapes.find? fun shape => hasShape shape text).map List.length

def levelLength? (text : List Char) : Option Nat :=
  let word := text.takeWhile isWordChar
  (Severity.ofWord? (String.ofList word)).map fun _ => word.length

/--
The tokens of a text, as start and end counted from `i`.  `inWord` tells whether the character
before is one of a word, and `skip` how many characters still belong to the last token.
-/
def spansFrom (length? : List Char → Option Nat) (inWord : Bool) (skip i : Nat) :
    List Char → List (Nat × Nat)
  | [] => []
  | c :: rest =>
    match skip with
    | skip + 1 => spansFrom length? (isWordChar c) skip (i + 1) rest
    | 0 =>
      match if inWord then none else length? (c :: rest) with
      | some n => (i, i + n) :: spansFrom length? (isWordChar c) (n - 1) (i + 1) rest
      | none => spansFrom length? (isWordChar c) 0 (i + 1) rest

def spans (length? : List Char → Option Nat) (text : List Char) : List (Nat × Nat) :=
  spansFrom length? false 0 0 text

def firstLevel? (text : String) : Option Severity :=
  (spans levelLength? text.toList).head?.bind fun (i, j) =>
    Severity.ofWord? (String.ofList ((text.toList.drop i).take (j - i)))

end Token

end LogView
