import LogView.Number.Shortest
import LogView.Text.Quoted

/-!
# Settings

A setting is a value as a configuration gives it: a word, a number, a date, or a list or a record
of further settings.  What is wrong with a setting is told in the words of the language that it is
written in.
-/

namespace LogView

inductive Dialect where
  | json
  | toml
  deriving Repr, DecidableEq

inductive Setting where
  | null
  | flag (on : Bool)
  | integer (n : Int)
  | real (value : Real64)
  | text (text : String)
  /-- A date, a time or both. -/
  | moment
  | list (items : List Setting)
  /-- Tables that share a heading. -/
  | tables (items : List Setting)
  | record (fields : List (String × Setting))
  deriving Inhabited

inductive SettingFault where
  | wrongType (found expected : String)
  | wrongValue (found expected : String)
  | unknownName (name : String) (names : List String)
  | tooManyItems (count : Nat)
  /-- A choice is neither a word nor a record. -/
  | noChoice
  /-- A choice is a record with this many fields, where it takes one. -/
  | notOneChoice (count : Nat)
  /-- A choice takes nothing, but is given fields. -/
  | choiceWithFields
  /-- A choice takes nothing, but is given a value of this type. -/
  | choiceWithValue (found : String)
  deriving Repr, DecidableEq

namespace SettingFault

/-- Names in backquotes, as one of which a name was expected. -/
def alternatives (names : List String) : String :=
  match names.map fun name => "\x60" ++ name ++ "\x60" with
  | [first, second] => first ++ " or " ++ second
  | names => "one of " ++ String.intercalate ", " names

def message : SettingFault → String
  | wrongType found expected => "invalid type: " ++ found ++ ", expected " ++ expected
  | wrongValue found expected => "invalid value: " ++ found ++ ", expected " ++ expected
  | unknownName name names =>
    "unknown variant \x60" ++ name ++ "\x60, expected " ++ alternatives names
  | tooManyItems count => s!"invalid length {count}, expected fewer elements in array"
  | noChoice => "wanted string or table"
  | notOneChoice count =>
    "wanted exactly 1 element, " ++
      (if count = 0 then "found 0 elements" else "more than 1 element")
  | choiceWithFields => "expected empty table"
  | choiceWithValue found => "expected table, found " ++ found

end SettingFault

namespace Setting

def describeInteger (n : Int) : String := s!"integer \x60{n}\x60"

/-- How messages of a language show numbers that are not whole. -/
def realLayout : Dialect → Places → String
  | .json => Places.compact
  | .toml => Places.positional

def describe (dialect : Dialect) : Setting → String
  | .null => "null"
  | .flag on => "boolean \x60" ++ toString on ++ "\x60"
  | .integer n => describeInteger n
  | .real value => "floating point \x60" ++ value.text (realLayout dialect) ++ "\x60"
  | .text t => "string " ++ Text.quoted t
  | .list _ | .tables _ => "sequence"
  | .moment | .record _ => "map"

def typeName : Setting → String
  | .null => "none"
  | .flag _ => "boolean"
  | .integer _ => "integer"
  | .real _ => "float"
  | .text _ => "string"
  | .moment => "datetime"
  | .list _ => "array"
  | .tables _ => "array of tables"
  | .record _ => "table"

end Setting

end LogView
