import LogView.Toml.Value

/-!
# TOML texts

A text is made of statements, each on lines of its own: a heading opens a table, a heading in
double brackets opens one more of several tables, and a key with a value belongs to the table
opened last.  A text with anything else in it has no meaning.
-/

namespace LogView
namespace Toml

/-- What was read so far: all tables, and the way to the one that is open. -/
structure Progress where
  fields : Fields
  heading : List String

def readHeading (opening closing : List Char) : Reader (List String × String) := fun text => do
  let (key, rest) ← readKey (← word? opening text)
  some (key, ← word? closing rest)

/-- Reads a statement that is not empty and does not begin in blanks. -/
def readStatement (progress : Progress) : Reader Progress := fun text => do
  match text with
  | '[' :: '[' :: _ =>
    let ((path, key), rest) ← readHeading ['[', '['] [']', ']'] text
    some (⟨← Fields.openElement path key progress.fields, path ++ [key]⟩, rest)
  | '[' :: _ =>
    let ((path, key), rest) ← readHeading ['['] [']'] text
    some (⟨← Fields.openTable path key progress.fields, path ++ [key]⟩, rest)
  | _ =>
    let (((path, key), value), rest) ← readPair readValue text
    let fields ← Fields.assignBelow progress.heading path key value progress.fields
    some ({ progress with fields := fields }, rest)

/-- Reads at most `steps` statements, up to the end of the text. -/
def readStatements : (steps : Nat) → Progress → List Char → Option Fields
  | 0, _, _ => none
  | steps + 1, progress, text =>
    match skipSpace text with
    | [] => some progress.fields
    | c :: rest =>
      if c = '#' || c = '\n' || c = '\r' then do
        readStatements steps progress (← statementEnd? (c :: rest))
      else do
        let (progress, rest) ← readStatement progress (c :: rest)
        readStatements steps progress (← statementEnd? rest)

def skipMark : List Char → List Char
  | '\uFEFF' :: rest => rest
  | text => text

def read (text : String) : Option Setting :=
  let chars := skipMark text.toList
  (readStatements (chars.length + 1) ⟨[], []⟩ chars).map fun fields =>
    (Node.table .heading fields).setting

end Toml
end LogView
