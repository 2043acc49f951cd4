import LogView.Number.Binary64
import LogView.Session.Basic
import LogView.Token.Scan
import LogView.View.Json
import LogView.View.Terminal

/-!
# How severe the lines are

Lines are counted by the first severity that they name.  The counts are shown as a table, in the
order of severity and with their share in percent, or as a record with its names in order.
-/

namespace LogView

/-- How many lines name each severity first. -/
structure LevelCounts where
  totalLines : Nat
  filteredLines : Nat
  /-- From least to most severe; severities that no line names have no entry. -/
  levels : List (Severity × Nat)
  unleveled : Nat
  deriving Repr, DecidableEq

namespace Severity

def rank (severity : Severity) : Nat := all.idxOf severity

def countOne (severity : Severity) : List (Severity × Nat) → List (Severity × Nat)
  | [] => [(severity, 1)]
  | (other, count) :: rest =>
    if severity = other then (other, count + 1) :: rest
    else if severity.rank < other.rank then (severity, 1) :: (other, count) :: rest
    else (other, count) :: countOne severity rest

end Severity

namespace LevelCounts

def add (counts : LevelCounts) (line : LogLine) : LevelCounts :=
  match Token.firstLevel? line.text with
  | some severity => { counts with levels := severity.countOne counts.levels }
  | none => { counts with unleveled := counts.unleveled + 1 }

def ofLines (total : Nat) (lines : List LogLine) : LevelCounts :=
  lines.foldl add ⟨total, lines.length, [], 0⟩

def ofSession (session : Session) : LevelCounts :=
  ofLines session.totalLines session.run.kept

end LevelCounts

/-- The share of a count in hundredths of a percent, by way of the nearest binary value. -/
def shareHundredths (count total : Nat) : Nat :=
  match Binary64.ofRatio? (count * 100) total with
  | some value =>
    let (num, den) := value.ratio
    Binary64.divideEven (num * 100) den
  | none => 0

/-- The share of a count in percent, with two places; the share in nothing is zero. -/
def percentText (count total : Nat) : String :=
  let hundredths := if total = 0 then 0 else shareHundredths count total
  let places := toString (hundredths % 100)
  toString (hundredths / 100) ++ "." ++ (if places.length < 2 then "0" ++ places else places)

structure Table where
  header : List String
  rows : List (List String)
  deriving Repr, DecidableEq

namespace Table

def widths (table : Table) : List Nat :=
  table.rows.foldl (fun widths row => List.zipWith (fun w cell => max w cell.length) widths row)
    (table.header.map String.length)

/-- A text filled up to a width with blanks on its right. -/
def padRight (width : Nat) (text : String) : String :=
  text ++ String.ofList (List.replicate (width - text.length) ' ')

def rule (left fill cross right : String) (widths : List Nat) : String :=
  left ++ String.intercalate cross
    (widths.map fun width => String.join (List.replicate (width + 2) fill)) ++ right

def row (widths : List Nat) (cells : List String) : String :=
  "│ " ++ String.intercalate " ┆ " (List.zipWith padRight widths cells) ++ " │"

def lines (table : Table) : List String :=
  let widths := table.widths
  let between := rule "├" "╌" "┼" "┤" widths
  [rule "┌" "─" "┬" "┐" widths, row widths table.header, rule "╞" "═" "╪" "╡" widths] ++
    List.intersperse between (table.rows.map (row widths)) ++
    [rule "└" "─" "┴" "┘" widths]

end Table

namespace LevelCounts

def tableRow (counts : LevelCounts) (name : String) (count : Nat) : List String :=
  [name, toString count, padLeft 6 (percentText count counts.filteredLines) ++ "%"]

def table (counts : LevelCounts) : Table :=
  ⟨["Level", "Lines", "Percent"],
    counts.levels.map (fun (severity, count) => counts.tableRow severity.word count) ++
      (if counts.unleveled = 0 then [] else [counts.tableRow "(none)" counts.unleveled])⟩

def text (counts : LevelCounts) : String :=
  s!"Lines: {counts.totalLines} | Filtered: {counts.filteredLines} " ++
    "(" ++ percentText counts.filteredLines counts.totalLines ++ "%)\n" ++
    Text.joinLines counts.table.lines ++ "\n"

/-- Severities in the order of their words. -/
def byWord (levels : List (Severity × Nat)) : List (Severity × Nat) :=
  levels.mergeSort fun a b => a.1.word ≤ b.1.word

def report (counts : LevelCounts) : Json :=
  .record
    [("filtered_lines", .number counts.filteredLines),
     ("levels", .record ((byWord counts.levels).map fun (severity, count) =>
       (severity.word, .number count))),
     ("total_lines", .number counts.totalLines),
     ("unleveled", .number counts.unleveled)]

end LevelCounts

end LogView
