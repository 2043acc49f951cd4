import LogView.Text.Blank

/-!
# Layout of verbose patterns

In verbose mode blank characters between the parts of a pattern, and comments from `#` to the end
of the line, say nothing.  Outside verbose mode every character counts.
-/

namespace LogView
namespace Pattern
namespace Reader

open Text

def skipLayout (inComment : Bool) : List Char → List Char
  | [] => []
  | c :: rest =>
    if inComment then skipLayout (c ≠ '\n') rest
    else if isBlank c then skipLayout false rest
    else if c = '#' then skipLayout true rest
    else c :: rest

/-- Skips what says nothing. -/
def skip (verbose : Bool) (text : List Char) : List Char :=
  if verbose then skipLayout false text else text

/-- The first character that is neither blank nor the `#` that opens a comment. -/
def firstShown? (inComment : Bool) : List Char → Option Char
  | [] => none
  | c :: rest =>
    if isBlank c then firstShown? inComment rest
    else if !inComment && c = '#' then firstShown? true rest
    else some c

/-- A look at what comes next, which in verbose mode is taken to be past the layout. -/
def peek (verbose : Bool) (text : List Char) : Option Char :=
  if verbose then (firstShown? false text).or text.head? else text.head?

theorem length_skipLayout_le (inComment : Bool) (text : List Char) :
    (skipLayout inComment text).length ≤ text.length := by
  induction text generalizing inComment with
  | nil => simp [skipLayout]
  | cons c rest ih =>
    simp only [skipLayout]
    split
    · exact Nat.le_succ_of_le (ih _)
    · split
      · exact Nat.le_succ_of_le (ih _)
      · split
        · exact Nat.le_succ_of_le (ih _)
        · exact Nat.le_refl _

@[simp] theorem skip_false (text : List Char) : skip false text = text := rfl

end Reader
end Pattern
end LogView
