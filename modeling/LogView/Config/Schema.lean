import LogView.Config.Setting

/-!
# Reading settings

A schema reads a setting as a value or tells why it cannot.  A record may leave fields out, which
then have their standard values, and may have fields that mean nothing; it may be written as a
list too, its fields in order.  Fields are read in the order of their names in JSON, and as they
are written in TOML: the first fault is told.
-/

namespace LogView

/-- A way of reading settings. -/
abbrev Schema (α : Type) : Type := Setting → Except SettingFault α

namespace Schema

variable {α β : Type}

def unfit (dialect : Dialect) (expected : String) : Schema α :=
  fun setting => .error (.wrongType (setting.describe dialect) expected)

def text (dialect : Dialect) : Schema String
  | .text t => .ok t
  | other => unfit dialect "a string" other

def flag (dialect : Dialect) : Schema Bool
  | .flag on => .ok on
  | other => unfit dialect "a boolean" other

def integer (dialect : Dialect) (least greatest : Int) (expected : String) : Schema Int
  | .integer n =>
    if least ≤ n && n ≤ greatest then .ok n
    else .error (.wrongValue (Setting.describeInteger n) expected)
  | other => unfit dialect expected other

def int64 (dialect : Dialect) : Schema Int := integer dialect minInt64 maxInt64 "i64"

def count (dialect : Dialect) : Schema Nat :=
  fun setting => (integer dialect 0 0xFFFFFFFFFFFFFFFF "usize" setting).map Int.toNat

def optional (schema : Schema α) : Schema (Option α)
  | .null => .ok none
  | other => (schema other).map some

def list (dialect : Dialect) (schema : Schema α) : Schema (List α)
  | .list items | .tables items => items.mapM schema
  | other => unfit dialect "a sequence" other

/-- The value with a name. -/
def named (values : List (String × α)) (name : String) : Except SettingFault α :=
  match values.lookup name with
  | some value => .ok value
  | none => .error (.unknownName name (values.map (·.1)))

/-- Refuses whatever is given to a choice that takes nothing. -/
def nothing (dialect : Dialect) (setting : Setting) : Except SettingFault Unit :=
  match dialect, setting with
  | .json, .null => .ok ()
  | .json, other => unfit dialect "unit" other
  | .toml, .record [] => .ok ()
  | .toml, .record _ => .error .choiceWithFields
  | .toml, other => .error (.choiceWithValue other.typeName)

/-- The fault that a choice is a record without exactly one field. -/
def notOne (dialect : Dialect) (count : Nat) : SettingFault :=
  match dialect with
  | .json => .wrongValue "map" "map with a single key"
  | .toml => .notOneChoice count

/-- A choice between names: a word, or a record whose only field has that name. -/
def choice (dialect : Dialect) (values : List (String × α)) : Schema α
  | .text name => named values name
  | .record [(name, setting)] => do
    let value ← named values name
    nothing dialect setting
    .ok value
  | .record fields => .error (notOne dialect fields.length)
  | other =>
    match dialect with
    | .json => unfit dialect "string or map" other
    | .toml => .error .noChoice

/-- A field: its name, and how a setting changes a value. -/
structure Field (α : Type) where
  name : String
  put : Setting → α → Except SettingFault α

def Field.of (name : String) (schema : Schema β) (put : β → α → α) : Field α :=
  ⟨name, fun setting value => (schema setting).map fun part => put part value⟩

/-- The fields of a record in the order in which they are read. -/
def inOrder (dialect : Dialect) (settings : List (String × Setting)) :
    List (String × Setting) :=
  match dialect with
  | .json => settings.mergeSort fun a b => a.1 ≤ b.1
  | .toml => settings

/-- Puts the settings of a record in the fields with their names. -/
def putNamed (fields : List (Field α)) : List (String × Setting) → α → Except SettingFault α
  | [], value => .ok value
  | (name, setting) :: rest, value =>
    match fields.find? fun field => field.name = name with
    | some field => do putNamed fields rest (← field.put setting value)
    | none => putNamed fields rest value

/-- Puts the settings of a list in fields, one after the other. -/
def putInOrder : List (Field α) → List Setting → α → Except SettingFault α
  | field :: fields, setting :: rest, value => do
    putInOrder fields rest (← field.put setting value)
  | _, _, value => .ok value

/-- Refuses a list with more items than fields, which only JSON minds. -/
def checkLength (dialect : Dialect) (fields items : Nat) : Except SettingFault Unit :=
  match dialect with
  | .json => if fields < items then .error (.tooManyItems items) else .ok ()
  | .toml => .ok ()

/-- A record with fields; those that are left out are as in the standard value. -/
def record (dialect : Dialect) (name : String) (standard : α) (fields : List (Field α)) :
    Schema α
  | .record settings => putNamed fields (inOrder dialect settings) standard
  | .list items | .tables items => do
    let value ← putInOrder fields items standard
    checkLength dialect fields.length items.length
    .ok value
  | .moment => .ok standard
  | other => unfit dialect ("struct " ++ name) other

end Schema

end LogView
