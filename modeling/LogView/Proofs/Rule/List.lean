import LogView.Rule.List
import Mathlib.Data.List.InsertIdx

/-!
# Edited lists of rules

However a list of rules is edited, it holds at most eight of them, its first rule joins nothing and
every later one joins the rules before it.  An edit that fits does to the rules what it does to any
list: a rule that is written joins as it says, or by `and`, and of the others only one that becomes
the first loses its join.
-/

namespace LogView

/-- What a rule tests, apart from how it joins the rules before it. -/
def Rule.content (rule : Rule) : Kind × String × Bool :=
  (rule.kind, rule.pattern, rule.caseSensitive)

/-- How a rule joins others that stand before it. -/
def Rule.joinBehind (rule : Rule) : Option Join := some (rule.join.getD .and)

theorem Rule.following_of_join {rule : Rule} (joins : rule.join ≠ none) :
    rule.following = rule := by
  obtain ⟨join, kind, pattern, caseSensitive⟩ := rule
  cases join with
  | none => exact absurd rfl joins
  | some join => rfl

theorem Rule.leading_of_join {rule : Rule} (unjoined : rule.join = none) : rule.leading = rule := by
  cases rule
  cases unjoined
  rfl

theorem Rule.map_perm_of_content {α : Type} {f : Rule → α}
    (unaffected : ∀ rule join, f { rule with join := join } = f rule) {rules others : List Rule}
    (same : (rules.map Rule.content).Perm (others.map Rule.content)) :
    (rules.map f).Perm (others.map f) := by
  have told (rules : List Rule) : rules.map f = (rules.map Rule.content).map
      fun content => f ⟨none, content.1, content.2.1, content.2.2⟩ := by
    rw [List.map_map]
    exact List.map_congr_left fun rule _ => (unaffected rule none).symm
  rw [told, told]
  exact same.map _

/-- What can be done to a list. -/
inductive Edit (α : Type) where
  | restart (items : List α)
  | append (item : α)
  | overwrite (index : Nat) (item : α)
  | delete (index : Nat)
  deriving Repr, DecidableEq

namespace Edit

variable {α β : Type}

def map (f : α → β) : Edit α → Edit β
  | restart items => restart (items.map f)
  | append item => append (f item)
  | overwrite index item => overwrite index (f item)
  | delete index => delete index

/-- What an edit does to a list that takes any number of items. -/
def applyTo : Edit α → List α → List α
  | restart items, _ => items
  | append item, list => list ++ [item]
  | overwrite index item, list => list.set index item
  | delete index, list => list.eraseIdx index

/-- Why an edit of a list of rules is refused, if it is, by the length of the list. -/
def refusal? (length : Nat) : Edit α → Option ListFault
  | restart items => if maxRules < items.length then some .full else none
  | append _ => if maxRules ≤ length then some .full else none
  | overwrite index _ | delete index =>
    if length ≤ index then some (.noSuchRule index length) else none

theorem map_applyTo (f : α → β) (edit : Edit α) (list : List α) :
    (edit.applyTo list).map f = (edit.map f).applyTo (list.map f) := by
  cases edit with
  | restart items => rfl
  | append item => exact List.map_append
  | overwrite index item => exact List.map_set
  | delete index => exact (List.eraseIdx_map f list index).symm

theorem set_applyTo_cons (edit : Edit α) (first other new : α) (rest : List α) :
    (edit.applyTo (first :: rest)).set 0 new = (edit.applyTo (other :: rest)).set 0 new := by
  cases edit with
  | restart items => rfl
  | append item => rfl
  | overwrite index item => cases index <;> rfl
  | delete index => cases index <;> rfl

theorem length_applyTo_le {edit : Edit α} {list : List α} (fits : list.length ≤ maxRules)
    (accepted : edit.refusal? list.length = none) : (edit.applyTo list).length ≤ maxRules := by
  cases edit with
  | restart items => simpa [refusal?, applyTo] using accepted
  | append item =>
    have short : list.length < maxRules := by simpa [refusal?] using accepted
    rw [applyTo, List.length_append]
    exact short
  | overwrite index item => simpa [applyTo] using fits
  | delete index => exact Nat.le_trans (List.length_eraseIdx_le list index) fits

end Edit

namespace RuleList

theorem ofRules_eq_error {rules : List Rule} {fault : ListFault} :
    ofRules rules = .error fault ↔ maxRules < rules.length ∧ fault = .full := by
  unfold ofRules
  split_ifs with long <;> simp [long, eq_comm]

theorem ofRules_eq_ok {rules : List Rule} {list : RuleList} :
    ofRules rules = .ok list ↔ rules.length ≤ maxRules ∧ list = ⟨rejoin rules⟩ := by
  unfold ofRules
  split_ifs with long
  · simp [Nat.not_le.mpr long]
  · simp [Nat.le_of_not_lt long, eq_comm]

theorem push_eq_error {list : RuleList} {rule : Rule} {fault : ListFault} :
    list.push rule = .error fault ↔ maxRules ≤ list.length ∧ fault = .full := by
  unfold push
  split_ifs with full
  · have long : maxRules ≤ list.length := of_decide_eq_true full
    simp [long, eq_comm]
  · have short : ¬ maxRules ≤ list.length := fun long => full (decide_eq_true long)
    simp [short]

theorem replace_eq_error {list : RuleList} {index : Nat} {rule : Rule} {fault : ListFault} :
    list.replace index rule = .error fault ↔
      list.length ≤ index ∧ fault = .noSuchRule index list.length := by
  unfold replace
  split_ifs with inside
  · simp [Nat.not_le.mpr inside]
  · simp [Nat.le_of_not_lt inside, eq_comm]

theorem remove_eq_error {list : RuleList} {index : Nat} {fault : ListFault} :
    list.remove index = .error fault ↔
      list.length ≤ index ∧ fault = .noSuchRule index list.length := by
  unfold remove get? length
  cases found : list.rules[index]? with
  | none => simp [List.getElem?_eq_none_iff.mp found, eq_comm]
  | some rule => simp [Nat.not_le.mpr (List.getElem?_eq_some_iff.mp found).1]

/-- Edits a list. -/
def edited (list : RuleList) : Edit Rule → Except ListFault RuleList
  | .restart rules => ofRules rules
  | .append rule => list.push rule
  | .overwrite index rule => list.replace index rule
  | .delete index => (list.remove index).map (·.2)

/-- The list after an edit, which is the same as before if the edit is refused. -/
def after (list : RuleList) (edit : Edit Rule) : RuleList :=
  match list.edited edit with
  | .ok next => next
  | .error _ => list

/-- The list that edits lead to from the empty one, whether they are refused or not. -/
def ofEdits (edits : List (Edit Rule)) : RuleList := edits.foldl after empty

/-- The first rule joins nothing, and every later one joins the rules before it. -/
def WellJoined (list : RuleList) : Prop :=
  ∀ index rule, list.rules[index]? = some rule → (rule.join = none ↔ index = 0)

theorem length_rejoin (rules : List Rule) : (rejoin rules).length = rules.length := by
  cases rules <;> simp [rejoin]

theorem wellJoined_rejoin (rules : List Rule) : WellJoined ⟨rejoin rules⟩ := by
  intro index rule found
  cases rules with
  | nil => cases found
  | cons first rest =>
    cases index with
    | zero =>
      cases found
      simp [Rule.leading]
    | succ index =>
      obtain ⟨other, -, rfl⟩ := List.mem_map.mp (List.mem_of_getElem? found)
      simp [Rule.following]

theorem rejoin_of_wellJoined {list : RuleList} (joined : list.WellJoined) :
    rejoin list.rules = list.rules := by
  obtain ⟨rules⟩ := list
  cases rules with
  | nil => rfl
  | cons first rest =>
    have leads : first.leading = first := Rule.leading_of_join ((joined 0 first rfl).mpr rfl)
    have follow : ∀ rule ∈ rest, rule.following = id rule := by
      intro rule mem
      obtain ⟨index, found⟩ := List.getElem?_of_mem mem
      apply Rule.following_of_join
      intro unjoined
      exact Nat.succ_ne_zero index ((joined (index + 1) rule found).mp unjoined)
    rw [rejoin, leads, List.map_congr_left follow, List.map_id]

theorem map_rejoin {α : Type} {f : Rule → α}
    (unaffected : ∀ rule join, f { rule with join := join } = f rule) (rules : List Rule) :
    (rejoin rules).map f = rules.map f := by
  cases rules with
  | nil => rfl
  | cons first rest => simp [rejoin, Rule.leading, Rule.following, unaffected]

theorem map_content_rejoin (rules : List Rule) :
    (rejoin rules).map Rule.content = rules.map Rule.content :=
  map_rejoin (fun _ _ => rfl) rules

theorem map_join_rejoin (rules : List Rule) :
    (rejoin rules).map Rule.join = (rules.map Rule.joinBehind).set 0 none := by
  cases rules with
  | nil => rfl
  | cons first rest => simp [rejoin, Rule.joinBehind, Rule.leading, Rule.following]

/-- An edit is refused by its length alone; else the rules are edited and joined anew. -/
theorem edited_eq (list : RuleList) (edit : Edit Rule) :
    list.edited edit =
      match edit.refusal? list.length with
      | some fault => .error fault
      | none => .ok ⟨rejoin (edit.applyTo list.rules)⟩ := by
  cases edit with
  | restart rules =>
    simp only [edited, ofRules, Edit.refusal?]
    split_ifs <;> rfl
  | append rule =>
    simp only [edited, push, isFull, decide_eq_true_eq, Edit.refusal?]
    split_ifs <;> rfl
  | overwrite index rule =>
    simp only [edited, replace, Edit.refusal?]
    by_cases inside : index < list.length
    · simp [inside, Nat.not_le.mpr inside, Edit.applyTo]
    · simp [inside, Nat.not_lt.mp inside]
  | delete index =>
    simp only [edited, remove, Edit.refusal?]
    cases found : list.get? index with
    | none =>
      have outside : list.length ≤ index := List.getElem?_eq_none_iff.mp found
      simp [outside, Except.map]
    | some rule =>
      have inside : index < list.length := (List.getElem?_eq_some_iff.mp found).1
      simp [Nat.not_le.mpr inside, Except.map, Edit.applyTo]

theorem after_keeps {list : RuleList} (fits : list.length ≤ maxRules) (joined : list.WellJoined)
    (edit : Edit Rule) : (list.after edit).length ≤ maxRules ∧ (list.after edit).WellJoined := by
  unfold after
  rw [edited_eq]
  cases accepted : edit.refusal? list.length with
  | some fault => exact ⟨fits, joined⟩
  | none =>
    refine ⟨?_, wellJoined_rejoin _⟩
    change (rejoin (edit.applyTo list.rules)).length ≤ maxRules
    rw [length_rejoin]
    exact Edit.length_applyTo_le fits accepted

theorem foldl_after_keeps (edits : List (Edit Rule)) {list : RuleList}
    (fits : list.length ≤ maxRules) (joined : list.WellJoined) :
    (edits.foldl after list).length ≤ maxRules ∧ (edits.foldl after list).WellJoined := by
  induction edits generalizing list with
  | nil => exact ⟨fits, joined⟩
  | cons edit edits ih =>
    obtain ⟨fits, joined⟩ := after_keeps fits joined edit
    exact ih fits joined

theorem wellJoined_empty : empty.WellJoined := wellJoined_rejoin []

theorem ofEdits_keeps (edits : List (Edit Rule)) :
    (ofEdits edits).length ≤ maxRules ∧ (ofEdits edits).WellJoined :=
  foldl_after_keeps edits (Nat.zero_le maxRules) wellJoined_empty

theorem ofEdits_concat (edits : List (Edit Rule)) (edit : Edit Rule) :
    ofEdits (edits ++ [edit]) = (ofEdits edits).after edit :=
  List.foldl_append

theorem map_join_applyTo {list : RuleList} (joined : list.WellJoined) (edit : Edit Rule) :
    (rejoin (edit.applyTo list.rules)).map Rule.join =
      ((edit.map Rule.joinBehind).applyTo (list.rules.map Rule.join)).set 0 none := by
  -- the two sides differ in the first join at most, and that is overwritten
  have behind : list.rules.map Rule.join = (list.rules.map Rule.joinBehind).set 0 none := by
    rw [← map_join_rejoin, rejoin_of_wellJoined joined]
  rw [map_join_rejoin, Edit.map_applyTo, behind]
  cases list.rules with
  | nil => rfl
  | cons first rest => exact Edit.set_applyTo_cons ..

theorem rejoin_append (rules more : List Rule) :
    rejoin (rejoin rules ++ more) = rejoin (rules ++ more) := by
  cases rules with
  | nil => rfl
  | cons first rest =>
    simp [rejoin, Rule.leading, Rule.following]

theorem foldlM_push (rules : List Rule) {list : RuleList} (joined : list.WellJoined)
    (fits : list.length ≤ maxRules) :
    rules.foldlM push list =
      if maxRules < list.length + rules.length then .error .full
      else .ok ⟨rejoin (list.rules ++ rules)⟩ := by
  -- every rule that is added leaves a list that is joined again, so the list is generalised
  induction rules generalizing list with
  | nil =>
    rw [List.append_nil, rejoin_of_wellJoined joined]
    exact (if_neg (Nat.not_lt.mpr fits)).symm
  | cons rule rules ih =>
    rw [List.foldlM_cons]
    by_cases full : maxRules ≤ list.length
    · have refused : list.push rule = .error .full := push_eq_error.mpr ⟨full, rfl⟩
      have long : maxRules < list.length + (rule :: rules).length := by
        rw [List.length_cons]
        omega
      rw [refused, if_pos long]
      rfl
    · have pushed : list.push rule = .ok ⟨rejoin (list.rules ++ [rule])⟩ := by
        simp [push, isFull, full]
      have longer : length ⟨rejoin (list.rules ++ [rule])⟩ = list.length + 1 := by
        simp [length, length_rejoin]
      have places : list.length + 1 + rules.length = list.length + (rule :: rules).length := by
        rw [List.length_cons]
        omega
      rw [pushed]
      change rules.foldlM push _ = _
      rw [ih (wellJoined_rejoin _) (by omega), longer, places, rejoin_append, List.append_assoc]
      rfl

/-- Adding rules to a list that was made comes to the same as making the list with them. -/
theorem foldlM_push_ofRules {rules : List Rule} {list : RuleList}
    (made : ofRules rules = .ok list) (more : List Rule) :
    more.foldlM push list = ofRules (rules ++ more) := by
  obtain ⟨short, rfl⟩ := ofRules_eq_ok.mp made
  have fits : length ⟨rejoin rules⟩ ≤ maxRules := by
    change (rejoin rules).length ≤ maxRules
    rwa [length_rejoin]
  rw [foldlM_push more (wellJoined_rejoin rules) fits, rejoin_append]
  simp [ofRules, length, length_rejoin]

theorem ofRules_append_eq_ok {rules more : List Rule} {next : RuleList} :
    ofRules (rules ++ more) = .ok next ↔
      ∃ list, ofRules rules = .ok list ∧ more.foldlM push list = .ok next := by
  constructor
  · intro made
    obtain ⟨short, -⟩ := ofRules_eq_ok.mp made
    rw [List.length_append] at short
    have first : ofRules rules = .ok ⟨rejoin rules⟩ :=
      ofRules_eq_ok.mpr ⟨Nat.le_of_add_right_le short, rfl⟩
    exact ⟨⟨rejoin rules⟩, first, (foldlM_push_ofRules first more).trans made⟩
  · rintro ⟨list, made, added⟩
    rw [← foldlM_push_ofRules made, added]

/--
Whatever was done to a list of rules before, it is bounded and joined.  An edit fails exactly if it
does not fit, and then changes nothing; else it does to what the rules test and to their joins what
it does to any list, but for the join of the first rule, which has none.  Adding rules one by one
comes to the same as making a list of them.
-/
theorem bounded_list_of_edits :
    (∀ edits : List (Edit Rule),
      (ofEdits edits).length ≤ maxRules ∧ (ofEdits edits).WellJoined) ∧
    (∀ (edits : List (Edit Rule)) (edit : Edit Rule),
      match (ofEdits edits).edited edit with
      | .error fault =>
        edit.refusal? (ofEdits edits).length = some fault ∧
          ofEdits (edits ++ [edit]) = ofEdits edits
      | .ok next =>
        edit.refusal? (ofEdits edits).length = none ∧ ofEdits (edits ++ [edit]) = next ∧
          next.rules.map Rule.content =
            (edit.map Rule.content).applyTo ((ofEdits edits).rules.map Rule.content) ∧
          next.rules.map Rule.join =
            ((edit.map Rule.joinBehind).applyTo ((ofEdits edits).rules.map Rule.join)).set 0 none) ∧
    ∀ rules : List Rule, rules.foldlM push empty = ofRules rules := by
  refine ⟨ofEdits_keeps, fun edits edit => ?_, fun rules => ?_⟩
  · rw [ofEdits_concat]
    unfold after
    rw [edited_eq]
    cases edit.refusal? (ofEdits edits).length with
    | some fault => exact ⟨rfl, rfl⟩
    | none =>
      refine ⟨rfl, rfl, ?_, map_join_applyTo (ofEdits_keeps edits).2 edit⟩
      rw [map_rejoin fun _ _ => rfl, Edit.map_applyTo]
  · have nothing : ofRules [] = .ok empty := rfl
    exact foldlM_push_ofRules nothing rules

/-- A rule that becomes the first one joins nothing any more. -/
example :
    (ofEdits [.append (.ofKind .contains "a"), .append ((Rule.ofKind .contains "b").joined .or),
      .delete 0]).rules = [.ofKind .contains "b"] := rfl

end RuleList

end LogView
