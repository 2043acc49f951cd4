/-!
# JSON texts

A value is written over several lines: each item of a list and each field of a record stands on a
line of its own, two more blanks to the right than its list or record.  Empty lists and records
stay on one line.
-/

namespace LogView

inductive Json where
  | number (n : Nat)
  | text (text : String)
  | flag (on : Bool)
  | list (items : List Json)
  | record (fields : List (String × Json))

namespace Json

def hexDigit (n : Nat) : Char :=
  if n < 10 then Char.ofNat ('0'.toNat + n) else Char.ofNat ('a'.toNat + n - 10)

/-- A character as it is written between quotes. -/
def escapeChar (c : Char) : List Char :=
  if c = '"' then ['\\', '"']
  else if c = '\\' then ['\\', '\\']
  else if c = '\x08' then ['\\', 'b']
  else if c = '\t' then ['\\', 't']
  else if c = '\n' then ['\\', 'n']
  else if c = '\x0c' then ['\\', 'f']
  else if c = '\r' then ['\\', 'r']
  else if c.toNat < 0x20 then
    ['\\', 'u', '0', '0', hexDigit (c.toNat / 16), hexDigit (c.toNat % 16)]
  else [c]

def quoted (text : String) : String :=
  String.ofList ('"' :: text.toList.flatMap escapeChar ++ ['"'])

/-- The line feed and the blanks before something that stands `depth` deep. -/
def margin (depth : Nat) : String :=
  String.ofList ('\n' :: List.replicate (2 * depth) ' ')

/-- Parts between brackets, each on a line of its own. -/
def enclose (first last : String) (depth : Nat) (parts : List String) : String :=
  if parts.isEmpty then first ++ last
  else
    first ++ String.intercalate "," (parts.map fun part => margin (depth + 1) ++ part) ++
      margin depth ++ last

mutual

/-- Writes a value that stands `depth` deep. -/
def render (depth : Nat) : Json → String
  | .number n => toString n
  | .text t => quoted t
  | .flag on => if on then "true" else "false"
  | .list items => enclose "[" "]" depth (renderItems (depth + 1) items)
  | .record fields => enclose "\x7b" "\x7d" depth (renderFields (depth + 1) fields)

def renderItems (depth : Nat) : List Json → List String
  | [] => []
  | item :: rest => item.render depth :: renderItems depth rest

def renderFields (depth : Nat) : List (String × Json) → List String
  | [] => []
  | (name, value) :: rest =>
    (quoted name ++ ": " ++ value.render depth) :: renderFields depth rest

end

def print (value : Json) : String := value.render 0

end Json

end LogView
