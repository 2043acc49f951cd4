import LogView.Proofs.Filter.Highlight
import LogView.Proofs.Pattern.Search

/-!
# Where rules match

At a place of a line, alternatives prefer the match of the first of them that matches there at all.
A rule with a literal text matches where the line has a run that resembles its text, held to the
edge of the line that its kind asks for.  It never matches without taking a character, and what
it finds where case counts it finds as well where case is ignored.
-/

namespace LogView

open Pattern

namespace Pattern

theorem SameChar.ignoringCase {ignoreCase : Bool} {c d : Char} (same : SameChar ignoreCase c d) :
    SameChar true c d := by
  cases ignoreCase with
  | true => exact same
  | false => exact congrArg Unicode.simpleFolding (congrArg Char.toNat same)

theorem Resembles.ignoringCase {ignoreCase : Bool} {text run : List Char}
    (alike : Resembles ignoreCase text run) : Resembles true text run :=
  List.Forall₂.imp (fun _ _ same => same.ignoringCase) alike

/-- The pattern of a literal text matches where a run resembles the text, at the edge asked for. -/
theorem follow_literalParts {ignoreCase : Bool} {line : Line} {i j : Nat} (kind : Kind)
    (text : List Char) :
    follow ignoreCase line i (kind.literalParts text) = some j ↔
      j = i + text.length ∧
        (∃ run, Resembles ignoreCase text run ∧ run <+: line.toList.drop i) ∧
        (kind = .startsWith → i = 0) ∧ (kind = .endsWith → j = line.size) := by
  have chars := follow_chars ignoreCase line text i
  cases kind with
  | contains => simp [Kind.literalParts, chars]
  | lacks => simp [Kind.literalParts, chars]
  | regex => simp [Kind.literalParts, chars]
  | startsWith =>
    simp only [Kind.literalParts, follow_cons, LiteralPart.step?]
    by_cases start : i = 0
    · simp [start, follow_chars]
    · simp [start]
  | endsWith =>
    have anchor (k : Nat) :
        follow ignoreCase line k [.lineEnd] = some j ↔ k = j ∧ j = line.size := by
      rw [follow_cons, LiteralPart.step?]
      by_cases finish : k = line.size
      · simp [finish, follow_nil, eq_comm]
      · rw [if_neg finish]
        simp only [Option.bind_none, reduceCtorEq, false_iff]
        omega
    rw [Kind.literalParts, follow_append, Option.bind_eq_some_iff]
    simp only [chars, anchor]
    constructor
    · rintro ⟨k, ⟨width, alike⟩, rfl, finish⟩
      exact ⟨width, alike, (by intro other; cases other), fun _ => finish⟩
    · rintro ⟨width, alike, -, edge⟩
      exact ⟨j, ⟨width, alike⟩, rfl, edge trivial⟩

end Pattern

namespace Rule

theorem literalBytes_le_withCase {rule : Rule} {ignoreCase : Bool}
    (coarser : rule.caseSensitive = false → ignoreCase = true) :
    rule.literalBytes ≤ (rule.withCase ignoreCase).literalBytes := by
  unfold literalBytes
  rw [caseSensitive_withCase, Bool.not_not]
  exact bytes_literalNode_le (fun uncased => coarser ((Bool.not_eq_true' _).mp uncased)) _

theorem isHighlighted_iff {rule : Rule} :
    rule.isHighlighted = true ↔ rule.isBlank = false ∧ rule.kind.asks = true := by
  rw [isHighlighted, Bool.and_eq_true, Bool.not_eq_true']

/-- The end of the match that the pattern of a rule, taken alone, prefers at a place of a line. -/
def matchAt? (rule : Rule) (line : String) (i : Nat) : Option Nat :=
  rule.test?.bind fun test => test.pattern.matchAt? line i

variable {rule : Rule}

theorem matchAt?_of_nodeOf (active : rule.isBlank = false) {node : Node}
    (made : nodeOf (rule.kind.patternSource rule.trimmed) (!rule.caseSensitive) = .ok node)
    (line : String) (i : Nat) :
    rule.matchAt? line i = node.matcher.first? line.toList.toArray i := by
  have pattern : ofSource (rule.kind.patternSource rule.trimmed) (!rule.caseSensitive) =
      .ok ⟨rule.kind.patternSource rule.trimmed, !rule.caseSensitive, node, node.matcher, rfl⟩ := by
    unfold ofSource
    rw [made]
    rfl
  unfold matchAt? test? compile
  rw [active, pattern]
  rfl

theorem matchAt?_of_refused {refused : RefusedPattern} (compiled : rule.compile = .error refused)
    (line : String) (i : Nat) : rule.matchAt? line i = none := by
  unfold matchAt?
  rw [test?_of_refused compiled]
  rfl

theorem isBlank_of_matchAt? {line : String} {i j : Nat} (found : rule.matchAt? line i = some j) :
    rule.isBlank = false := by
  obtain ⟨test, made, -⟩ := Option.bind_eq_some_iff.mp found
  exact isBlank_eq_false (by simp [compile_of_test? made])

theorem refusal?_of_matchAt? {line : String} {i j : Nat} (found : rule.matchAt? line i = some j) :
    rule.refusal? = none := by
  obtain ⟨test, made, -⟩ := Option.bind_eq_some_iff.mp found
  rw [refusal?, compile_of_test? made]

theorem matchAt?_inside {line : String} {i j : Nat} (place : i ≤ line.length)
    (found : rule.matchAt? line i = some j) : i ≤ j ∧ j ≤ line.length := by
  obtain ⟨test, -, found⟩ := Option.bind_eq_some_iff.mp found
  exact Pattern.matchAt?_inside place found

theorem passes_iff_matchAt? (asks : rule.kind.asks = true) {line : String} :
    rule.passes line = true ↔ ∃ i j, i ≤ line.length ∧ rule.matchAt? line i = some j := by
  cases made : rule.test? with
  | none => simp [passes, matchAt?, made]
  | some test =>
    have kind := (compile_some (compile_of_test? made)).1
    rw [passes_of_test? made, Predicate.accepts, kind, asks, if_pos rfl]
    simp only [isMatch, Matcher.isMatch, matchAt?, made, Option.bind_some, Pattern.matchAt?,
      List.any_eq_true, List.mem_range, Nat.lt_succ_iff, size_line, Option.isSome_iff_exists]
    constructor
    · rintro ⟨i, place, j, found⟩
      exact ⟨i, j, place, found⟩
    · rintro ⟨i, j, place, found⟩
      exact ⟨i, place, j, found⟩

theorem passes_withCase_iff (marked : rule.isHighlighted = true)
    {ignoreCase : Bool} {line : String} :
    (rule.withCase ignoreCase).passes line = true ↔
      ∃ i j, i ≤ line.length ∧ (rule.withCase ignoreCase).matchAt? line i = some j := by
  have asks : (rule.withCase ignoreCase).kind.asks = true := (isHighlighted_iff.mp marked).2
  exact passes_iff_matchAt? asks

/-- Below the limit of size the pattern of a literal text is followed part by part. -/
theorem matchAt?_literal (literal : rule.kind ≠ .regex) (active : rule.isBlank = false)
    (fits : rule.literalBytes ≤ maxBytes) (line : String) (i : Nat) :
    rule.matchAt? line i = follow (!rule.caseSensitive) line.toList.toArray i
      (rule.kind.literalParts rule.trimmed.toList) := by
  have written := Kind.toList_patternSource literal rule.trimmed
  have node := nodeOf_literal (!rule.caseSensitive) written
  unfold literalBytes at fits
  rw [if_pos fits] at node
  rw [matchAt?_of_nodeOf active node, first?_literalNode]

theorem literalBytes_of_matchAt? (literal : rule.kind ≠ .regex) {line : String} {i j : Nat}
    (found : rule.matchAt? line i = some j) : rule.literalBytes ≤ maxBytes := by
  rcases Nat.lt_or_ge maxBytes rule.literalBytes with long | fits
  · have refused := compile_long_literal literal (isBlank_of_matchAt? found) long
    rw [matchAt?_of_refused refused] at found
    cases found
  · exact fits

theorem matchAt?_literal_eq_some (literal : rule.kind ≠ .regex) (active : rule.isBlank = false)
    (fits : rule.literalBytes ≤ maxBytes) {line : String} {i j : Nat} :
    rule.matchAt? line i = some j ↔
      j = i + rule.trimmed.length ∧
        (∃ run, Resembles (!rule.caseSensitive) rule.trimmed.toList run ∧
          run <+: line.toList.drop i) ∧
        (rule.kind = .startsWith → i = 0) ∧ (rule.kind = .endsWith → j = line.length) := by
  rw [matchAt?_literal literal active fits, follow_literalParts, String.length_toList, size_line]

theorem lt_of_matchAt?_literal (literal : rule.kind ≠ .regex) {line : String} {i j : Nat}
    (found : rule.matchAt? line i = some j) : i < j := by
  have active := isBlank_of_matchAt? found
  have fits := literalBytes_of_matchAt? literal found
  obtain ⟨width, -⟩ := (matchAt?_literal_eq_some literal active fits).mp found
  have taken := List.length_pos_of_ne_nil (trimmed_ne_nil active)
  rw [String.length_toList] at taken
  omega

/-- Ignoring case loses no match of a literal text that is not too long then. -/
theorem matchAt?_withCase_literal (literal : rule.kind ≠ .regex) {ignoreCase : Bool}
    (coarser : rule.caseSensitive = false → ignoreCase = true)
    (fits' : (rule.withCase ignoreCase).literalBytes ≤ maxBytes) {line : String} {i j : Nat}
    (found : rule.matchAt? line i = some j) :
    (rule.withCase ignoreCase).matchAt? line i = some j := by
  have active := isBlank_of_matchAt? found
  have fits := literalBytes_of_matchAt? literal found
  obtain ⟨width, ⟨run, alike, here⟩, edges⟩ :=
    (matchAt?_literal_eq_some literal active fits).mp found
  have alike' : Resembles ignoreCase rule.trimmed.toList run := by
    cases ignoreCase with
    | true => exact alike.ignoringCase
    | false =>
      cases cased : rule.caseSensitive with
      | true =>
        rw [cased] at alike
        exact alike
      | false => cases coarser cased
  have literal' : (rule.withCase ignoreCase).kind ≠ .regex := literal
  rw [matchAt?_literal_eq_some literal' active fits', caseSensitive_withCase, Bool.not_not]
  exact ⟨width, ⟨run, alike', here⟩, edges⟩

end Rule

end LogView
