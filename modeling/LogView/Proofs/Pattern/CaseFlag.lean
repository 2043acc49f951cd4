import LogView.Pattern.Basic
import Mathlib.Tactic.SplitIfs

/-!
# Flags that refuse nothing

Of the flags in force only the Unicode flag decides what a pattern may hold.  All others, and
ignoring case among them, change what it matches and how large it is, but not whether it means
anything.
-/

namespace LogView
namespace Pattern

/-- Whether two results are refused for the same cause, or are alike. -/
def Agree {α : Type} (alike : α → α → Prop) : Except Fault α → Except Fault α → Prop
  | .ok made, .ok made' => alike made made'
  | .error fault, .error fault' => fault = fault'
  | _, _ => False

section Agree

variable {α β : Type} {alike : α → α → Prop} {alike' : β → β → Prop}

theorem Agree.bind {first first' : Except Fault α} {next next' : α → Except Fault β}
    (agree : Agree alike first first')
    (then_ : ∀ made made', alike made made' → Agree alike' (next made) (next' made')) :
    Agree alike' (first >>= next) (first' >>= next') := by
  match first, first', agree with
  | .ok made, .ok made', alike => exact then_ made made' alike
  | .error fault, .error _, rfl => exact rfl

theorem agree_of_eq {made : Except Fault α} {next next' : α → Except Fault β}
    (then_ : ∀ value, Agree alike' (next value) (next' value)) :
    Agree alike' (made >>= next) (made >>= next') := by
  cases made with
  | error fault => exact rfl
  | ok value => exact then_ value

end Agree

/-- Whether the flags that decide what a pattern may hold are the same. -/
def Mode.Alike (mode mode' : Mode) : Prop := mode.unicode = mode'.unicode

theorem Mode.Alike.setAll {mode mode' : Mode} (alike : mode.Alike mode')
    (settings : FlagSettings) : (mode.setAll settings).Alike (mode'.setAll settings) := by
  unfold Mode.setAll
  induction settings generalizing mode mode' with
  | nil => exact alike
  | cons setting settings ih =>
    refine ih ?_
    obtain ⟨flag, on⟩ := setting
    cases flag <;> first | exact alike | exact rfl

/-- Whether both were made, whatever they hold. -/
abbrev BothMade {α : Type} (_ _ : α) : Prop := True

section Sets

variable {mode mode' : Mode} (alike : mode.Alike mode')
include alike

theorem negate_agree (negated : Bool) (set set' : CharSet) :
    Agree BothMade (mode.negate negated set) (mode'.negate negated set') := by
  unfold Mode.negate
  rw [alike]
  split_ifs <;> first | exact trivial | exact rfl

theorem charOf_agree (literal : Literal) : mode.charOf literal = mode'.charOf literal := by
  unfold Mode.charOf
  rw [alike]

theorem memberOf_agree (literal : Literal) : mode.memberOf literal = mode'.memberOf literal := by
  unfold Mode.memberOf
  rw [charOf_agree alike, alike]

theorem table_agree (found : Except Unicode.Missing Unicode.RangeTable) (negated : Bool) :
    Agree BothMade
      (match found with
        | .ok table => mode.negate negated (mode.closeCase (.ofTable table))
        | .error .property => .error .propertyNotFound
        | .error .value => .error .propertyValueNotFound)
      (match found with
        | .ok table => mode'.negate negated (mode'.closeCase (.ofTable table))
        | .error .property => .error .propertyNotFound
        | .error .value => .error .propertyValueNotFound) := by
  match found with
  | .ok table => exact negate_agree alike negated _ _
  | .error .property => exact rfl
  | .error .value => exact rfl

theorem query_agree (query : PropertyQuery) (negated : Bool) :
    Agree BothMade (query.set mode negated) (query.set mode' negated) := by
  unfold PropertyQuery.set
  rw [alike]
  split_ifs
  · exact rfl
  · exact table_agree alike _ negated

theorem set_agree (set : SetExpr) : Agree BothMade (set.set mode) (set.set mode') := by
  induction set with
  | empty => exact trivial
  | literal l =>
    unfold SetExpr.set
    rw [memberOf_agree alike]
    exact agree_of_eq fun _ => trivial
  | range first last =>
    unfold SetExpr.set
    rw [memberOf_agree alike, memberOf_agree alike]
    exact agree_of_eq fun _ => agree_of_eq fun _ => trivial
  | ascii name negated => exact negate_agree alike negated _ _
  | short name negated => exact negate_agree alike negated _ _
  | property query negated => exact query_agree alike query negated
  | bracketed negated inner ih => exact ih.bind fun _ _ _ => negate_agree alike negated _ _
  | union left right ihLeft ihRight =>
    exact ihLeft.bind fun _ _ _ => ihRight.bind fun _ _ _ => trivial
  | combined operator left right ihLeft ihRight =>
    exact ihLeft.bind fun _ _ _ => ihRight.bind fun _ _ _ => trivial

end Sets

/-- Whether the flags in force after two meanings are alike. -/
def MeaningAlike (meaning meaning' : Node × Mode) : Prop := meaning.2.Alike meaning'.2

theorem literal_agree {mode mode' : Mode} (alike : mode.Alike mode') (literal : Literal) :
    Agree BothMade (literal.node mode) (literal.node mode') := by
  unfold Literal.node
  rw [charOf_agree alike]
  refine agree_of_eq fun c => ?_
  rw [alike]
  split_ifs <;> exact trivial

theorem dot_agree {mode mode' : Mode} (alike : mode.Alike mode') :
    Agree BothMade (dotNode mode) (dotNode mode') := by
  unfold dotNode
  rw [alike]
  split_ifs <;> first | exact rfl | exact trivial

/-- A pattern means something under alike flags, or is refused under both for the same cause. -/
theorem meaning_agree (expr : Expr) {mode mode' : Mode} (alike : mode.Alike mode') :
    Agree MeaningAlike (expr.meaning mode) (expr.meaning mode') := by
  induction expr generalizing mode mode' with
  | empty => exact alike
  | flags settings => exact alike.setAll settings
  | literal l => exact (literal_agree alike l).bind fun _ _ _ => alike
  | dot => exact (dot_agree alike).bind fun _ _ _ => alike
  | mark m => exact alike
  | short name negated => exact (negate_agree alike negated _ _).bind fun _ _ _ => alike
  | property query negated => exact (query_agree alike query negated).bind fun _ _ _ => alike
  | bracketed negated inner =>
    exact (set_agree alike inner).bind fun _ _ _ =>
      (negate_agree alike negated _ _).bind fun _ _ _ => alike
  | repeated body least most greedy ih => exact (ih alike).bind fun _ _ after => after
  | group settings body ih =>
    cases settings with
    | none => exact (ih alike).bind fun _ _ _ => alike
    | some settings => exact (ih (alike.setAll settings)).bind fun _ _ _ => alike
  | seq left right ihLeft ihRight =>
    exact (ihLeft alike).bind fun _ _ between => (ihRight between).bind fun _ _ after => after
  | choice left right ihLeft ihRight =>
    exact (ihLeft alike).bind fun _ _ between => (ihRight between).bind fun _ _ after => after

/-- Ignoring case does not change whether an expression has a meaning. -/
theorem meaning_of_ignoreCase {expr : Expr} {ignoreCase : Bool} {node : Node} {mode : Mode}
    (meaning : expr.meaning { ignoreCase := ignoreCase } = .ok (node, mode)) (other : Bool) :
    ∃ node' mode', expr.meaning { ignoreCase := other } = .ok (node', mode') := by
  have alike : Mode.Alike { ignoreCase := ignoreCase } { ignoreCase := other } := rfl
  have agree := meaning_agree expr alike
  rw [meaning] at agree
  cases meaning' : expr.meaning { ignoreCase := other } with
  | error fault =>
    rw [meaning'] at agree
    exact agree.elim
  | ok made => exact ⟨made.1, made.2, rfl⟩

end Pattern
end LogView
