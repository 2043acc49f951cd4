/-!
# Readers

A reader takes something from the front of a text: it gives what it read and the rest of the
text, or nothing if the text does not begin with it.  Lines end in a line feed, with or without a
carriage return before it; blanks and tabs may stand between words, and a comment reaches from its
sign to the end of the line.
-/

namespace LogView
namespace Toml

/-- A way of reading something from the front of a text. -/
abbrev Reader (α : Type) : Type := List Char → Option (α × List Char)

def isSpace (c : Char) : Bool := c = ' ' || c = '\t'

/-- Characters of texts and comments: all but controls, of which the tab is allowed. -/
def isPlain (c : Char) : Bool :=
  c = '\t' || (0x20 ≤ c.toNat && c.toNat ≤ 0x7E) || 0x80 ≤ c.toNat

def skipSpace (text : List Char) : List Char := text.dropWhile isSpace

def newline? : List Char → Option (List Char)
  | '\n' :: rest => some rest
  | '\r' :: '\n' :: rest => some rest
  | _ => none

def skipComment : List Char → List Char
  | '#' :: rest => rest.dropWhile isPlain
  | text => text

/-- The text after the end of a statement: blanks, a comment, and a line end unless it is over. -/
def statementEnd? (text : List Char) : Option (List Char) :=
  match skipComment (skipSpace text) with
  | [] => some []
  | rest => newline? rest

def char? (c : Char) : List Char → Option (List Char)
  | d :: rest => if c = d then some rest else none
  | [] => none

def word? (word text : List Char) : Option (List Char) :=
  if word.isPrefixOf text then some (text.drop word.length) else none

/-- Leaves out blanks, line ends and comments, at most `steps` of them. -/
def skipMargin : (steps : Nat) → List Char → List Char
  | 0, text => text
  | steps + 1, text =>
    match text with
    | c :: rest =>
      if isSpace c then skipMargin steps rest
      else if c = '#' then skipMargin steps (rest.dropWhile isPlain)
      else
        match newline? text with
        | some rest => skipMargin steps rest
        | none => text
    | [] => []

def margin (text : List Char) : List Char := skipMargin text.length text

/-- Reads items until one is not there or `steps` were read. -/
def readWhile {α : Type} (item : Reader α) : (steps : Nat) → List Char → List α × List Char
  | 0, text => ([], text)
  | steps + 1, text =>
    match item text with
    | none => ([], text)
    | some (value, rest) =>
      let (values, rest) := readWhile item steps rest
      (value :: values, rest)

/-- Reads an item and all that follow it behind a separator. -/
def separated {α : Type} (separator : Char) (item : Reader α) : Reader (List α) := fun text => do
  let (first, rest) ← item text
  let next : Reader α := fun text => do item (← char? separator text)
  let (others, rest) := readWhile next rest.length rest
  some (first :: others, rest)

end Toml
end LogView
