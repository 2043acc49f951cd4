import LogView.View.Json
import LogView.View.Lines

/-!
# The page as a report

The report of a page is a record of what the session holds, with the lines of the page.  What is
not there has no field.
-/

namespace LogView

/-- A field for a text that may not be there. -/
def textField (name : String) (text : Option String) : List (String × Json) :=
  (text.map fun text => (name, Json.text text)).toList

def ShownLine.report (line : ShownLine) : Json :=
  .record
    ([("line_number", .number line.number), ("display_index", .number line.displayIndex)] ++
      textField "level" (line.content.level.map Severity.word) ++
      [("text", .text line.content.plain)])

def Session.report (session : Session) : Json :=
  .record
    (textField "file" (session.document.map Document.name) ++
      [("total_lines", .number session.totalLines),
       ("filtered_lines", .number session.filteredLines),
       ("page", .number session.page.number),
       ("total_pages", .number session.page.totalPages),
       ("page_size", .number session.page.size),
       ("failed", .flag session.run.failed)] ++
      textField "error" session.run.errorMessage? ++
      textField "highlight" (session.run.highlight.map Pattern.source) ++
      [("lines", .list (session.shownLines.map ShownLine.report))])

end LogView
