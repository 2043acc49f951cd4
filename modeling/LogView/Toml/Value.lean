import LogView.Toml.Moment
import LogView.Toml.Number
import LogView.Toml.Table
import LogView.Toml.Text

/-!
# Values

A value is a text, a number, a date, a flag, or a list or table of values.  A list may go over
several lines and end in a comma; a table within a line may not.
-/

namespace LogView
namespace Toml

/-- Reads a value that holds no others. -/
def readScalar : Reader Setting
  | '"' :: rest => (readText ('"' :: rest)).map fun (t, rest) => (.text t, rest)
  | '\'' :: rest => (readText ('\'' :: rest)).map fun (t, rest) => (.text t, rest)
  | 't' :: rest => (word? ['r', 'u', 'e'] rest).map fun rest => (.flag true, rest)
  | 'f' :: rest => (word? ['a', 'l', 's', 'e'] rest).map fun rest => (.flag false, rest)
  | text =>
    if beginsMoment text then (afterMoment? text).map fun rest => (.moment, rest)
    else (readNumber text).map fun
      | (.integer n, rest) => (.integer n, rest)
      | (.real value, rest) => (.real value, rest)

def readItems (item : Reader Setting) : Reader (List Setting) := fun text =>
  match margin text with
  | ']' :: rest => some ([], rest)
  | _ => do
    let padded : Reader Setting := fun text => do
      let (value, rest) ← item (margin text)
      some (value, margin rest)
    let (items, rest) ← separated ',' padded text
    let rest := margin ((char? ',' rest).getD rest)
    some (items, ← char? ']' rest)

def readPair (item : Reader Setting) : Reader ((List String × String) × Setting) := fun text => do
  let (key, rest) ← readKey text
  let (value, rest) ← item (skipSpace (← char? '=' rest))
  some ((key, value), rest)

def assignAll : List ((List String × String) × Setting) → Fields → Option Fields
  | [], fields => some fields
  | ((path, key), value) :: rest, fields => do
    assignAll rest (← Fields.assign path key value .heading fields)

def readInlineTable (item : Reader Setting) : Reader Setting := fun text => do
  let padded : Reader ((List String × String) × Setting) := fun text => do
    let (pair, rest) ← readPair item text
    some (pair, skipSpace rest)
  let (pairs, rest) := (separated ',' padded text).getD ([], text)
  let rest ← char? '\x7d' (skipSpace rest)
  some ((Node.table .heading (← assignAll pairs [])).setting, rest)

/-- Reads a value in which lists and tables are nested at most `depth` deep. -/
def readNested : (depth : Nat) → Reader Setting
  | 0, text => readScalar text
  | depth + 1, text =>
    match text with
    | '[' :: rest =>
      (readItems (readNested depth) rest).map fun (items, rest) => (.list items, rest)
    | '\x7b' :: rest => readInlineTable (readNested depth) rest
    | text => readScalar text

def readValue : Reader Setting := readNested (maxDepth - 1)

end Toml
end LogView
