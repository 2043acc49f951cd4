import LogView.Toml.Reader
import LogView.Unicode.RangeTable

/-!
# Texts and keys

A text stands between quotes, on one line or, between three quotes, on several.  Between double
quotes a backslash begins an escape; between single quotes every character stands for itself.  A
key is a text on one line or a bare word, and keys are joined by points.
-/

namespace LogView
namespace Toml

def readCodePoint (count : Nat) : Reader Char := fun text =>
  let digits := text.take count
  if digits.length = count && digits.all fun c => (Unicode.hexValue? c).isSome then
    let number := Unicode.hexNumber digits
    if number < 0xD800 || (0xDFFF < number && number ≤ 0x10FFFF) then
      some (Char.ofNat number, text.drop count)
    else none
  else none

def readEscape : Reader Char
  | 'b' :: rest => some ('\x08', rest)
  | 't' :: rest => some ('\t', rest)
  | 'n' :: rest => some ('\n', rest)
  | 'f' :: rest => some ('\x0c', rest)
  | 'r' :: rest => some ('\r', rest)
  | '"' :: rest => some ('"', rest)
  | '\\' :: rest => some ('\\', rest)
  | 'u' :: rest => readCodePoint 4 rest
  | 'U' :: rest => readCodePoint 8 rest
  | _ => none

def readBasic : (steps : Nat) → Reader (List Char)
  | 0, _ => none
  | steps + 1, text =>
    match text with
    | '"' :: rest => some ([], rest)
    | '\\' :: rest => do
      let (c, rest) ← readEscape rest
      let (cs, rest) ← readBasic steps rest
      some (c :: cs, rest)
    | c :: rest => do
      if !isPlain c then none
      let (cs, rest) ← readBasic steps rest
      some (c :: cs, rest)
    | [] => none

def readLiteral : Reader (List Char) := fun text => do
  let body := text.takeWhile fun c => c ≠ '\'' && isPlain c
  some (body, ← char? '\'' (text.drop body.length))

/-- The text after a line end and all blanks and line ends that follow, if only blanks precede. -/
def afterFold? (text : List Char) : Option (List Char) :=
  (newline? (skipSpace text)).map fun rest =>
    let steps := rest.length
    skipLines steps rest
where
  skipLines : Nat → List Char → List Char
    | 0, text => text
    | steps + 1, text =>
      match newline? (skipSpace text) with
      | some rest => skipLines steps rest
      | none => skipSpace text

/--
Reads the rest of a text of several lines.  Up to two quotes belong to the text, before more of it
or before the three that close it.  Between double quotes there are escapes, and a backslash at
the end of a line takes out the white space that follows.
-/
def readBlock (quote : Char) (escapes : Bool) : (steps : Nat) → Reader (List Char)
  | 0, _ => none
  | steps + 1, text =>
    match text with
    | [] => none
    | c :: rest =>
      if c = quote then
        let count := (text.takeWhile (· = quote)).length
        if count < 3 then do
          let (cs, rest) ← readBlock quote escapes steps (text.drop count)
          some (List.replicate count quote ++ cs, rest)
        else
          let kept := min (count - 3) 2
          some (List.replicate kept quote, text.drop (kept + 3))
      else if escapes && c = '\\' then
        match afterFold? rest with
        | some rest => readBlock quote escapes steps rest
        | none => do
          let (c, rest) ← readEscape rest
          let (cs, rest) ← readBlock quote escapes steps rest
          some (c :: cs, rest)
      else
        match newline? text with
        | some rest => do
          let (cs, rest) ← readBlock quote escapes steps rest
          some ('\n' :: cs, rest)
        | none => do
          if !isPlain c then none
          let (cs, rest) ← readBlock quote escapes steps rest
          some (c :: cs, rest)

def skipNewline (text : List Char) : List Char := (newline? text).getD text

def readLine : Reader String
  | '"' :: rest => (readBasic (rest.length + 1) rest).map fun (cs, rest) => (String.ofList cs, rest)
  | '\'' :: rest => (readLiteral rest).map fun (cs, rest) => (String.ofList cs, rest)
  | _ => none

def readText : Reader String := fun text =>
  let block (quote : Char) (escapes : Bool) (rest : List Char) : Option (String × List Char) :=
    (readBlock quote escapes (rest.length + 1) (skipNewline rest)).map fun (cs, rest) =>
      (String.ofList cs, rest)
  match text with
  | '"' :: '"' :: '"' :: rest => block '"' true rest
  | '\'' :: '\'' :: '\'' :: rest => block '\'' false rest
  | text => readLine text

def isBare (c : Char) : Bool := c.isAlphanum || c = '_' || c = '-'

def readSimpleKey : Reader String := fun text =>
  let text := skipSpace text
  let key? : Option (String × List Char) :=
    match text with
    | '"' :: _ | '\'' :: _ => readLine text
    | _ =>
      let word := text.takeWhile isBare
      if word.isEmpty then none else some (String.ofList word, text.drop word.length)
  key?.map fun (key, rest) => (key, skipSpace rest)

def maxDepth : Nat := 80

/-- Reads keys that are joined by points: those before the last one, and the last one. -/
def readKey : Reader (List String × String) := fun text => do
  let (keys, rest) ← separated '.' readSimpleKey text
  if maxDepth ≤ keys.length then none
  else some ((keys.dropLast, ← keys.getLast?), rest)

end Toml
end LogView
