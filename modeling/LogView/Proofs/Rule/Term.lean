import LogView.Rule.Term
import Mathlib.Tactic.SplitIfs

/-!
# Writing and reading terms

A term is cut where its writer put the signs: no name holds a colon or a slash, and no kind is
called as a join is, so what a rule looks for may hold any of these.  Reading a written rule gives
the rule, unless it is blank.
-/

namespace LogView

theorem Text.splitOnce_append {sep : Char} {head : List Char} (whole : sep ∉ head)
    (rest : List Char) : splitOnce sep (head ++ sep :: rest) = some (head, rest) := by
  induction head with
  | nil => simp [splitOnce]
  | cons c head ih =>
    rw [List.mem_cons, not_or] at whole
    obtain ⟨first, others⟩ := whole
    have apart : c ≠ sep := Ne.symm first
    simp [splitOnce, apart, ih others]

/-- A kind as it is written, with its modifier. -/
def Kind.head (kind : Kind) (caseSensitive : Bool) : String :=
  kind.name ++ if caseSensitive then "/c" else ""

namespace Rule

theorem toList_toTerm (rule : Rule) :
    rule.toTerm.toList =
      (match rule.join with
        | some join => join.name.toList ++ [':']
        | none => []) ++
      (rule.kind.head rule.caseSensitive).toList ++ ':' :: rule.pattern.toList := by
  unfold toTerm Kind.head
  cases rule.join <;> simp [String.toList_append]

/-- A written kind holds no colon, is no join, and is read as it was meant. -/
theorem readHead_head (kind : Kind) (caseSensitive : Bool) :
    ':' ∉ (kind.head caseSensitive).toList ∧
      Join.ofName? (Text.trim (String.ofList (kind.head caseSensitive).toList)) = none ∧
      readHead (kind.head caseSensitive).toList = .ok (kind, caseSensitive) := by
  cases kind <;> cases caseSensitive <;> exact ⟨by decide +kernel, by decide +kernel, by rfl⟩

theorem ofName?_name (join : Join) :
    ':' ∉ join.name.toList ∧
      Join.ofName? (Text.trim (String.ofList join.name.toList)) = some join := by
  cases join <;> decide +kernel

theorem ofTerm_parts (rule : Rule) :
    TermParts.ofTerm rule.toTerm =
      .ok ⟨rule.join, (rule.kind.head rule.caseSensitive).toList, rule.pattern.toList⟩ := by
  obtain ⟨whole, noJoin, -⟩ := readHead_head rule.kind rule.caseSensitive
  unfold TermParts.ofTerm
  rw [toList_toTerm]
  cases rule.join with
  | none =>
    dsimp only
    rw [List.nil_append, Text.splitOnce_append whole]
    simp only [noJoin]
  | some join =>
    obtain ⟨wholeJoin, named⟩ := ofName?_name join
    dsimp only
    rw [List.append_assoc, List.append_assoc, List.singleton_append,
      Text.splitOnce_append wholeJoin]
    simp only [named]
    rw [Text.splitOnce_append whole]

theorem ofTerm_toTerm (rule : Rule) :
    ofTerm rule.toTerm = if rule.isBlank then .error (.emptyPattern rule.kind) else .ok rule := by
  obtain ⟨-, -, read⟩ := readHead_head rule.kind rule.caseSensitive
  simp [ofTerm, ofTerm_parts, read, isBlank, trimmed, bind, Except.bind]

theorem isBlank_of_ofTerm {term : String} {rule : Rule} (read : ofTerm term = .ok rule) :
    rule.isBlank = false := by
  unfold ofTerm at read
  cases parts : TermParts.ofTerm term with
  | error fault => simp [parts, bind, Except.bind] at read
  | ok parts' =>
    cases head : readHead parts'.head with
    | error fault => simp [parts, head, bind, Except.bind] at read
    | ok head' =>
      simp only [parts, head, bind, Except.bind] at read
      split_ifs at read with blank
      cases read
      exact Bool.eq_false_iff.mpr blank

/--
A rule that says something is read back from its term, whatever its pattern holds; of a blank
rule the term is refused.  So a rule that was read once is read again from what is written for it.
-/
theorem read_written_rule (rule : Rule) :
    (rule.isBlank = false → ofTerm rule.toTerm = .ok rule) ∧
      (rule.isBlank = true → ofTerm rule.toTerm = .error (.emptyPattern rule.kind)) ∧
      ∀ term, ofTerm term = .ok rule → ofTerm rule.toTerm = .ok rule := by
  have active (sounds : rule.isBlank = false) : ofTerm rule.toTerm = .ok rule := by
    rw [ofTerm_toTerm, sounds]
    rfl
  refine ⟨active, fun blank => ?_, fun term read => active (isBlank_of_ofTerm read)⟩
  rw [ofTerm_toTerm, blank]
  rfl

/-- A pattern that looks like a term itself, and a blank one. -/
theorem read_written_signs :
    ofTerm (toTerm ⟨some .or, .regex, " and:x/c:\n", true⟩) =
        .ok ⟨some .or, .regex, " and:x/c:\n", true⟩ ∧
      ofTerm (toTerm ⟨some .and, .lacks, "\t ", true⟩) = .error (.emptyPattern .lacks) ∧
      ofTerm (toTerm ⟨none, .contains, "or:e", false⟩) = .ok ⟨none, .contains, "or:e", false⟩ := by
  have read : ofTerm " INC :or:e" = .ok ⟨none, .contains, "or:e", false⟩ := by rfl
  exact ⟨(read_written_rule _).1 (by decide +kernel), (read_written_rule _).2.1 (by decide +kernel),
    (read_written_rule _).2.2 _ read⟩

end Rule
end LogView
