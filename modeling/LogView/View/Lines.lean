import LogView.Annotation
import LogView.Session.Basic

/-!
# The page in view

Every way of showing a session shows the same lines with the same numbers, and opens with the
same summary.
-/

namespace LogView

structure ShownLine where
  /-- The place of the line in the document. -/
  number : Nat
  /-- The place of the line among the kept lines. -/
  displayIndex : Nat
  content : Annotated
  deriving Repr, DecidableEq

/-- Lines that follow `before` kept lines, annotated. -/
def shownFrom (highlight : Option Pattern) (before : Nat) : List LogLine → List ShownLine
  | [] => []
  | line :: rest =>
    ⟨line.number, before + 1, annotate line.text highlight⟩ ::
      shownFrom highlight (before + 1) rest

namespace Session

def shownLines (session : Session) : List ShownLine :=
  shownFrom session.run.highlight session.page.start session.page.lines

/-- How many lines there are, which page is shown, and what was refused. -/
def summary (session : Session) : String :=
  let error := match session.run.errorMessage? with
    | some message => " | " ++ message
    | none => ""
  s!"Lines: {session.totalLines} | Filtered: {session.filteredLines} | " ++
    s!"Page: {session.page.number} / {session.page.totalPages}" ++ error

end Session

end LogView
