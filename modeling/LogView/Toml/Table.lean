import LogView.Config.Setting

/-!
# Tables under construction

A table is made by its heading, by the path of a longer heading, or by a key with points in it.
That decides what may still be added: a table with a heading is closed to keys with points, a
table made by such a key gets no heading, and a table made by the path of a heading may get one of
its own once.  A value is never a way to a table.
-/

namespace LogView
namespace Toml

/-- What made a table. -/
inductive Origin where
  | heading
  | path
  | points
  deriving Repr, DecidableEq

inductive Node where
  | value (setting : Setting)
  | table (origin : Origin) (fields : List (String × Node))
  /-- Tables that share a heading, last one first. -/
  | tables (elements : List (List (String × Node)))

/-- What the keys of a table stand for, in the order in which they came. -/
abbrev Fields : Type := List (String × Node)

namespace Node

mutual

def setting : Node → Setting
  | .value s => s
  | .table _ fields => .record (fieldSettings fields)
  | .tables elements => .tables (elementSettings elements).reverse

def fieldSettings : List (String × Node) → List (String × Setting)
  | [] => []
  | (key, node) :: rest => (key, node.setting) :: fieldSettings rest

/-- The settings of tables that share a heading. -/
def elementSettings : List (List (String × Node)) → List Setting
  | [] => []
  | fields :: rest => .record (fieldSettings fields) :: elementSettings rest

end

end Node

namespace Fields

def without (fields : Fields) (key : String) : Fields :=
  fields.filter fun field => field.1 ≠ key

/-- Puts another node in the place of the one with a key. -/
def replace (fields : Fields) (key : String) (node : Node) : Fields :=
  fields.map fun field => if field.1 = key then (key, node) else field

/--
Changes the table that a path leads to, making tables on the way.  With `byPoints` the path is part
of a key, which does not lead through tables that have a heading.
-/
def alter (byPoints : Bool) (change : Origin → Fields → Option Fields) :
    (path : List String) → Origin → Fields → Option Fields
  | [], origin, fields => change origin fields
  | key :: path, _, fields =>
    match fields.lookup key with
    | none => do
      let origin := if byPoints then Origin.points else Origin.path
      let inner ← alter byPoints change path origin []
      some (fields ++ [(key, .table origin inner)])
    | some (.table origin inner) =>
      if byPoints && origin = .heading then none
      else do
        let inner ← alter byPoints change path origin inner
        some (replace fields key (.table origin inner))
    | some (.tables (last :: others)) => do
      let last ← alter byPoints change path .heading last
      some (replace fields key (.tables (last :: others)))
    | some (.tables []) | some (.value _) => none

/-- Gives a value to a key of a table that a path leads to. -/
def assign (path : List String) (key : String) (value : Setting) :
    Origin → Fields → Option Fields :=
  alter true
    (fun origin fields =>
      if decide (origin = .points) = path.isEmpty || (fields.lookup key).isSome then none
      else some (fields ++ [(key, .value value)]))
    path

def openTable (path : List String) (key : String) (fields : Fields) : Option Fields :=
  alter false
    (fun _ fields =>
      match fields.lookup key with
      | none => some (fields ++ [(key, .table .heading [])])
      | some (.table .path inner) => some (without fields key ++ [(key, .table .heading inner)])
      | some _ => none)
    path .heading fields

/-- Opens one more of the tables that share a heading. -/
def openElement (path : List String) (key : String) (fields : Fields) : Option Fields :=
  alter false
    (fun _ fields =>
      match fields.lookup key with
      | none => some (fields ++ [(key, .tables [[]])])
      | some (.tables elements) => some (replace fields key (.tables ([] :: elements)))
      | some _ => none)
    path .heading fields

def assignBelow (heading path : List String) (key : String) (value : Setting) (fields : Fields) :
    Option Fields :=
  alter false (assign path key value) heading .heading fields

end Fields

end Toml
end LogView
