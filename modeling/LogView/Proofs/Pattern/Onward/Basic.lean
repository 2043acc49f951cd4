import LogView.Pattern.Reader.Escape
import Mathlib.Tactic.SplitIfs

/-!
# Reading in front of a parenthesis

What is read of a text is read of it in the same way when a closing parenthesis and more text
follow.  A fault stays as well if it lies inside the text.  It may go away if it lies at the edge:
if the text ends where something is still to come, or closes a group that it did not open.
-/

namespace LogView
namespace Pattern

/-- Whether a fault lies at the edge of a pattern. -/
def Fault.isAtEdge : Fault → Bool
  | .classUnclosed | .escapeUnfinished | .flagUnfinished | .groupNameUnfinished | .groupUnclosed
  | .groupUnopened | .countUnclosed | .boundaryUnclosed | .boundaryUnfinished => true
  | _ => false

namespace Reader

theorem ok_of_bind {α β : Type} {made : Except Fault α} {next : α → Except Fault β} {result : β}
    (ok : made >>= next = .ok result) : ∃ value, made = .ok value ∧ next value = .ok result := by
  cases made with
  | error fault => cases ok
  | ok value => exact ⟨value, rfl, ok⟩

theorem skipLayout_append {inComment : Bool} {text : List Char} {c : Char} {rest : List Char}
    (shown : skipLayout inComment text = c :: rest) (more : List Char) :
    skipLayout inComment (text ++ more) = c :: (rest ++ more) := by
  induction text generalizing inComment with
  | nil => cases shown
  | cons d text ih =>
    simp only [List.cons_append, skipLayout] at shown ⊢
    split_ifs at shown ⊢
    · exact ih shown
    · exact ih shown
    · exact ih shown
    · cases shown
      rfl

theorem skip_append {verbose : Bool} {text : List Char} {c : Char} {rest : List Char}
    (shown : skip verbose text = c :: rest) (more : List Char) :
    skip verbose (text ++ more) = c :: (rest ++ more) := by
  cases verbose with
  | false =>
    rw [skip_false] at shown ⊢
    rw [shown, List.cons_append]
  | true => exact skipLayout_append shown more

theorem length_skip_le (verbose : Bool) (text : List Char) :
    (skip verbose text).length ≤ text.length := by
  cases verbose with
  | false => exact Nat.le_refl _
  | true => exact length_skipLayout_le false text

theorem length_le_of_skip {verbose : Bool} {text : List Char} {c : Char} {rest : List Char}
    (shown : skip verbose text = c :: rest) : rest.length ≤ text.length := by
  have le := length_skip_le verbose text
  rw [shown, List.length_cons] at le
  exact Nat.le_of_succ_le le

theorem skipLayout_onward {inComment : Bool} {text : List Char}
    (blank : skipLayout inComment text = []) :
    (∀ more, skipLayout inComment (text ++ ')' :: more) = ')' :: more) ∨
      skipLayout inComment (text ++ [')']) = [] := by
  induction text generalizing inComment with
  | nil =>
    cases inComment with
    | false => exact .inl fun _ => rfl
    | true => exact .inr rfl
  | cons c text ih =>
    simp only [List.cons_append, skipLayout] at blank ⊢
    split_ifs at blank ⊢
    · exact ih blank
    · exact ih blank
    · exact ih blank

/-- A parenthesis behind a text that is skipped shows, or else is in a comment. -/
theorem skip_onward {verbose : Bool} {text : List Char} (blank : skip verbose text = []) :
    (∀ more, skip verbose (text ++ ')' :: more) = ')' :: more) ∨
      skip verbose (text ++ [')']) = [] := by
  cases verbose with
  | false =>
    rw [skip_false] at blank
    subst blank
    exact .inl fun _ => rfl
  | true => exact skipLayout_onward blank

section GoesOn

variable {α β : Type} {more text : List Char}

/--
Whether a reading of a text, `alone`, is also the one of the text with a parenthesis and `more`
behind it, `onward`, except for faults at the edge.
-/
def GoesOn (more text : List Char) (alone onward : Except Fault (Reading α)) : Prop :=
  match alone with
  | .ok (value, rest) => rest.length ≤ text.length ∧ onward = .ok (value, rest ++ ')' :: more)
  | .error fault => fault.isAtEdge = false → onward = .error fault

theorem goesOn_of_edge {fault : Fault} (edge : fault.isAtEdge = true)
    (onward : Except Fault (Reading α)) : GoesOn more text (.error fault) onward := by
  intro inside
  rw [edge] at inside
  cases inside

theorem goesOn_error (fault : Fault) :
    GoesOn more text (.error fault : Except Fault (Reading α)) (.error fault) :=
  fun _ => rfl

theorem goesOn_ok {rest : List Char} (le : rest.length ≤ text.length) (value : α) :
    GoesOn more text (.ok (value, rest)) (.ok (value, rest ++ ')' :: more)) :=
  ⟨le, rfl⟩

theorem GoesOn.mono {rest : List Char} {alone onward : Except Fault (Reading α)}
    (goesOn : GoesOn more rest alone onward) (le : rest.length ≤ text.length) :
    GoesOn more text alone onward := by
  cases alone with
  | error fault => exact goesOn
  | ok reading => exact ⟨Nat.le_trans goesOn.1 le, goesOn.2⟩

theorem GoesOn.bind {alone onward : Except Fault (Reading α)}
    {next next' : Reading α → Except Fault (Reading β)} (first : GoesOn more text alone onward)
    (second : ∀ value rest,
      GoesOn more rest (next (value, rest)) (next' (value, rest ++ ')' :: more))) :
    GoesOn more text (alone >>= next) (onward >>= next') := by
  cases alone with
  | error fault =>
    intro inside
    rw [first inside]
    rfl
  | ok reading =>
    obtain ⟨value, rest⟩ := reading
    obtain ⟨le, rfl⟩ := first
    exact (second value rest).mono le

theorem goesOn_map {rest : List Char} (le : rest.length ≤ text.length) (made : Except Fault α)
    (wrap : α → β) :
    GoesOn more text (made >>= fun value => .ok (wrap value, rest))
      (made >>= fun value => .ok (wrap value, rest ++ ')' :: more)) := by
  cases made with
  | error fault => exact goesOn_error fault
  | ok value => exact goesOn_ok le (wrap value)

/--
Whether a reading goes on whatever follows the parenthesis.  If not, the text ends in a comment,
which takes in the parenthesis as well.
-/
def GoesOnOrEnds (text : List Char) (read : List Char → Except Fault (Reading α)) : Prop :=
  (∀ more, GoesOn more text (read text) (read (text ++ ')' :: more))) ∨
    ∃ value, read text = .ok (value, []) ∧ read (text ++ [')']) = .ok (value, [])

/-- The steps that a reader has for a text are some of those that it has when more follows. -/
theorem length_onward (rest more : List Char) :
    (rest ++ ')' :: more).length + 1 = rest.length + 1 + (more.length + 1) := by
  rw [List.length_append, List.length_cons]
  omega

end GoesOn

end Reader
end Pattern
end LogView
