import LogView.Text.Lines

/-!
# Documents

A document is a named text, cut into lines that are numbered from one.
-/

namespace LogView

structure LogLine where
  number : Nat
  text : String
  deriving Repr, DecidableEq, Inhabited

structure Document where
  name : String
  lines : List LogLine
  deriving Repr, DecidableEq, Inhabited

/-- Numbers texts, beginning with `start`. -/
def numberLines (start : Nat) : List String → List LogLine
  | [] => []
  | text :: rest => ⟨start, text⟩ :: numberLines (start + 1) rest

def logLines (text : String) : List LogLine :=
  numberLines 1 (Text.lines text)

namespace Document

def ofText (name text : String) : Document := ⟨name, logLines text⟩

def length (document : Document) : Nat := document.lines.length

end Document

end LogView
