import LogView.Proofs.Session.PageThrough
import LogView.Proofs.Text.Lines
import LogView.Proofs.View.PageTags
import LogView.View.Report
import LogView.View.Terminal
import Mathlib.Data.List.Forall2

/-!
# Views that agree

The lines that are shown, the report, the web page and the rows on a terminal list the lines of the
page: the same ones, in order, with the same numbers, severities and texts.  A placeholder is shown
exactly where the page has no lines, for a page in range is only empty where nothing was kept.
-/

namespace LogView

/-- What every view tells of a line: its two numbers, how severe it is, and its text. -/
structure Entry where
  number : Nat
  displayIndex : Nat
  level : Option Severity
  text : String
  deriving DecidableEq

/-- What there is to tell of the lines of a page. -/
def Page.entries (page : Page) : List Entry :=
  page.lines.mapIdx fun i line =>
    ⟨line.number, page.displayIndex i, Token.firstLevel? line.text, line.text⟩

def ShownLine.entry (line : ShownLine) : Entry :=
  ⟨line.number, line.displayIndex, line.content.level, line.content.plain⟩

namespace Entry

/-- The record of a line in a report. -/
def record (entry : Entry) : Json :=
  .record
    ([("line_number", .number entry.number), ("display_index", .number entry.displayIndex)] ++
      textField "level" (entry.level.map Severity.word) ++ [("text", .text entry.text)])

/-- The row of a line on a terminal without colours. -/
def row (entry : Entry) : String :=
  padLeft 7 (toString entry.number) ++ " " ++ padLeft 7 (toString entry.displayIndex) ++ " │ " ++
    entry.text

end Entry

/-- Texts that are each ended by a line feed. -/
def ended (texts : List String) : String := String.join (texts.map fun text => text ++ "\n")

@[simp] theorem Style.apply_false (style : Style) (text : String) :
    style.apply false text = text := by
  simp [apply]

theorem not_mem_padLeft {c : Char} {text : String} (absent : c ∉ text.toList) (mark : c ≠ ' ')
    (width : Nat) : c ∉ (padLeft width text).toList := by
  simp [padLeft, absent, mark]

theorem not_mem_number {c : Char} (mark : c.isDigit = false) (n : Nat) :
    c ∉ (toString n).toList := by
  intro mem
  rw [Markup.isDigit_of_mem_toString mem] at mark
  cases mark

namespace Session

end Session
end LogView
