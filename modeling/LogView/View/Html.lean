import LogView.View.Lines

/-!
# The page as a web page

Each line is one element that holds its two numbers and its markup; lines with a severity have a
class for it.  Every text from outside is escaped.
-/

namespace LogView

def styleSheet : String :=
  String.join
    ["body \x7b background: #111418; color: #d8dee9; font-family: monospace; \x7d\n",
     ".status \x7b padding: 4px 8px; \x7d\n",
     ".status.error \x7b color: #ff6b6b; \x7d\n",
     ".line \x7b white-space: pre; \x7d\n",
     ".line-number \x7b display: inline-block; min-width: 6ch; text-align: right; " ++
       "padding-right: 1ch; color: #5c6370; \x7d\n",
     "mark \x7b background: #e5c07b; color: #111418; \x7d\n",
     ".hl-date \x7b color: #61afef; \x7d\n",
     ".hl-time \x7b color: #56b6c2; \x7d\n",
     ".level-trace \x7b color: #7f848e; \x7d\n",
     ".level-debug \x7b color: #c678dd; \x7d\n",
     ".level-info \x7b color: #98c379; \x7d\n",
     ".level-warn, .level-warning \x7b color: #e5c07b; \x7d\n",
     ".level-error \x7b color: #e06c75; \x7d\n",
     ".level-fatal \x7b color: #ff5555; font-weight: bold; \x7d\n",
     ".level-warn-glow, .level-warning-glow \x7b background: rgba(229, 192, 123, 0.08); \x7d\n",
     ".level-error-glow, .level-fatal-glow \x7b background: rgba(224, 108, 117, 0.12); \x7d\n",
     ".empty \x7b color: #5c6370; padding: 8px; \x7d\n"]

def ShownLine.markup (line : ShownLine) : String :=
  let glow := match line.content.level with
    | some severity => " level-" ++ severity.className ++ "-glow"
    | none => ""
  "<div class=\"line" ++ glow ++ "\"><span class=\"line-number file\">" ++ toString line.number ++
    "</span><span class=\"line-number display\">" ++ toString line.displayIndex ++
    "</span><span class=\"line-text\">" ++ line.content.markup ++ "</span></div>"

namespace Session

/-- The elements of the lines of the page, or a placeholder. -/
def bodyMarkup (session : Session) : String :=
  match session.placeholder? with
  | some message => "<div class=\"empty\">" ++ Markup.escape message ++ "</div>"
  | none => Text.joinLines (session.shownLines.map ShownLine.markup)

def title (session : Session) : String :=
  (session.document.map Document.name).getD "log-lens"

def statusClass (session : Session) : String :=
  if session.run.refused.isEmpty then "status" else "status error"

def pageMarkup (session : Session) : String :=
  String.join
    ["<!DOCTYPE html>\n<html lang=\"en\">\n<head>\n<meta charset=\"utf-8\">\n<title>",
     Markup.escape session.title, "</title>\n<style>\n", styleSheet,
     "</style>\n</head>\n<body>\n<div class=\"", session.statusClass, "\">",
     Markup.escape session.summary, "</div>\n<div id=\"output\">\n", session.bodyMarkup,
     "\n</div>\n</body>\n</html>\n"]

end Session

end LogView
