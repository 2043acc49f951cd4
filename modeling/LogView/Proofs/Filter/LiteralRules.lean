import LogView.Proofs.Filter.Tests
import LogView.Proofs.Pattern.LiteralMatch
import LogView.Proofs.Text.Blank

/-!
# Rules with a literal text

Unless it is a regular expression, the text of a rule is looked for as it is, whatever signs of
patterns it holds, and the rule makes a test unless its text is too long for any pattern.
-/

namespace LogView

open Pattern

/-- The parts of the pattern of a rule with a literal text. -/
def Kind.literalParts (kind : Kind) (text : List Char) : List LiteralPart :=
  match kind with
  | .startsWith => .lineStart :: text.map .char
  | .endsWith => text.map .char ++ [.lineEnd]
  | .contains | .lacks | .regex => text.map .char

/-- How many bytes the automaton of a rule with a literal text takes. -/
def Rule.literalBytes (rule : Rule) : Nat :=
  (literalNode (!rule.caseSensitive) (rule.kind.literalParts rule.trimmed.toList)).bytes

theorem source_chars (text : List Char) :
    (text.map LiteralPart.char).flatMap LiteralPart.source = text.flatMap quoteChar := by
  rw [List.flatMap_map]
  rfl

theorem Kind.toList_patternSource {kind : Kind} (literal : kind ≠ .regex) (text : String) :
    (kind.patternSource text).toList =
      (kind.literalParts text.toList).flatMap LiteralPart.source := by
  cases kind with
  | regex => contradiction
  | contains => simp [patternSource, literalParts, quote, source_chars]
  | lacks => simp [patternSource, literalParts, quote, source_chars]
  | startsWith => simp [patternSource, literalParts, quote, source_chars, LiteralPart.source]
  | endsWith => simp [patternSource, literalParts, quote, source_chars, LiteralPart.source]

/-- Whether a line has a text in the way that a kind asks for. -/
def Kind.HoldsOf (kind : Kind) (text line : List Char) : Prop :=
  match kind with
  | .contains => text <:+: line
  | .lacks => ¬ text <:+: line
  | .startsWith => text <+: line
  | .endsWith => text <:+ line
  | .regex => False

/-- Whether a line has a run that counts as the text, in the way that a kind asks for. -/
def Kind.HoldsOfRun (kind : Kind) (counts : List Char → Prop) (line : List Char) : Prop :=
  match kind with
  | .contains => ∃ run, counts run ∧ run <:+: line
  | .lacks => ¬ ∃ run, counts run ∧ run <:+: line
  | .startsWith => ∃ run, counts run ∧ run <+: line
  | .endsWith => ∃ run, counts run ∧ run <:+ line
  | .regex => False

/-- Whether two texts are as long as each other and the same up to case, character by character. -/
def AlikeTexts (text run : List Char) : Prop := List.Forall₂ Unicode.SameUpToCase text run

instance (text run : List Char) : Decidable (AlikeTexts text run) :=
  inferInstanceAs (Decidable (List.Forall₂ _ text run))

theorem Kind.holdsOfRun_eq (kind : Kind) (text line : List Char) :
    kind.HoldsOfRun (fun run => run = text) line ↔ kind.HoldsOf text line := by
  cases kind <;> simp [HoldsOfRun, HoldsOf]

theorem Rule.trimmed_ne_nil {rule : Rule} (active : rule.isBlank = false) :
    rule.trimmed.toList ≠ [] := by
  intro empty
  have blank : rule.isBlank = true := by
    simpa [isBlank] using empty
  rw [blank] at active
  cases active

theorem Predicate.accepts_literal {kind : Kind} (literal : kind ≠ .regex) (join : Option Join)
    {pattern : Pattern} {ignoreCase : Bool} {text : List Char}
    (matcher : pattern.matcher = (literalNode ignoreCase (kind.literalParts text)).matcher)
    (line : String) :
    Predicate.accepts ⟨kind, join, pattern⟩ line = true ↔
      kind.HoldsOfRun (Resembles ignoreCase text) line.toList := by
  unfold accepts isMatch
  rw [matcher]
  cases kind with
  | regex => contradiction
  | contains => exact isMatch_contained ignoreCase line.toList.toArray text
  | lacks =>
    have contained := isMatch_contained ignoreCase line.toList.toArray text
    have missed := not_congr contained
    rw [Bool.not_eq_true, ← Bool.not_eq_true'] at missed
    exact missed
  | startsWith => exact isMatch_leading ignoreCase line.toList.toArray text
  | endsWith => exact isMatch_trailing ignoreCase line.toList.toArray text

/-- A rule with a literal text makes a test unless its text is too long for any pattern. -/
theorem Rule.compile_literal {rule : Rule} (literal : rule.kind ≠ .regex)
    (active : rule.isBlank = false) (fits : rule.literalBytes ≤ maxBytes) :
    ∃ pattern : Pattern, rule.compile = .ok (some ⟨rule.kind, rule.join, pattern⟩) ∧
      pattern.matcher = (literalNode (!rule.caseSensitive)
        (rule.kind.literalParts rule.trimmed.toList)).matcher := by
  have written := Kind.toList_patternSource literal rule.trimmed
  obtain ⟨pattern, made, matcher⟩ := ofSource_literal (!rule.caseSensitive) fits written
  refine ⟨pattern, ?_, matcher⟩
  unfold compile
  rw [active, made]
  rfl

theorem Kind.sum_literalParts_le (kind : Kind) (text : List Char) :
    ((kind.literalParts text).map LiteralPart.bytes).sum ≤
      32 * (text.map Char.utf8Size).sum + 32 := by
  have chars : ((text.map LiteralPart.char).map LiteralPart.bytes).sum =
      32 * (text.map Char.utf8Size).sum := by
    induction text with
    | nil => rfl
    | cons c text ih =>
      simp only [List.map_cons, List.sum_cons, ih, LiteralPart.bytes, Nat.mul_add]
  cases kind with
  | contains => exact Nat.le_trans (Nat.le_of_eq chars) (Nat.le_add_right _ _)
  | lacks => exact Nat.le_trans (Nat.le_of_eq chars) (Nat.le_add_right _ _)
  | regex => exact Nat.le_trans (Nat.le_of_eq chars) (Nat.le_add_right _ _)
  | startsWith =>
    rw [literalParts, List.map_cons, List.sum_cons, chars, Nat.add_comm]
    rfl
  | endsWith =>
    rw [literalParts, List.map_append, List.sum_append, chars]
    rfl

theorem Kind.length_literalParts_le (kind : Kind) (text : List Char) :
    (kind.literalParts text).length ≤ text.length + 1 := by
  cases kind <;> simp [literalParts]

theorem Rule.literalBytes_le (rule : Rule) :
    rule.literalBytes ≤ 1088 * (rule.trimmed.length + 1) + 208 := by
  have parts := rule.kind.length_literalParts_le rule.trimmed.toList
  rw [String.length_toList] at parts
  refine Node.bytes_le_of_size (by omega) fun backward => ?_
  have size := size_literalNode_le (!rule.caseSensitive)
    (rule.kind.literalParts rule.trimmed.toList) backward
  omega

/-- Where case counts, a text takes 32 bytes for each byte of its own and few more. -/
theorem Rule.literalBytes_le_of_cased {rule : Rule} (cased : rule.caseSensitive = true) :
    rule.literalBytes ≤ 32 * (rule.trimmed.toList.map Char.utf8Size).sum + 240 := by
  have parts := rule.kind.sum_literalParts_le rule.trimmed.toList
  unfold literalBytes
  rw [cased]
  refine Node.bytes_le_of_size (Nat.le_add_left 32 _) fun backward => ?_
  rw [Bool.not_true, size_literalNode]
  exact parts

theorem sum_utf8Size_le (text : List Char) : (text.map Char.utf8Size).sum ≤ 4 * text.length := by
  induction text with
  | nil => exact Nat.le_refl _
  | cons c text ih =>
    have le := c.utf8Size_le_four
    rw [List.map_cons, List.sum_cons, List.length_cons]
    omega

/-- No text of up to 9,600 characters is refused, and of up to 80,000 none where case counts. -/
theorem Rule.compile_short_literal {rule : Rule} (literal : rule.kind ≠ .regex)
    (active : rule.isBlank = false)
    (short : rule.trimmed.length ≤ if rule.caseSensitive then 80000 else 9600) :
    ∃ test, rule.compile = .ok (some test) := by
  have fits : rule.literalBytes ≤ maxBytes := by
    unfold maxBytes
    split_ifs at short with cased
    · have le := literalBytes_le_of_cased cased
      have size := sum_utf8Size_le rule.trimmed.toList
      rw [String.length_toList] at size
      omega
    · have le := rule.literalBytes_le
      omega
  obtain ⟨pattern, compiled, -⟩ := compile_literal literal active fits
  exact ⟨_, compiled⟩

/-- The limit of size is the only one: above it a rule with a literal text is refused. -/
theorem Rule.compile_long_literal {rule : Rule} (literal : rule.kind ≠ .regex)
    (active : rule.isBlank = false) (long : maxBytes < rule.literalBytes) :
    rule.compile = .error ⟨rule.trimmed, .tooLarge⟩ := by
  have written := Kind.toList_patternSource literal rule.trimmed
  have refused := ofSource_long_literal (!rule.caseSensitive) long written
  unfold compile
  rw [active, refused]
  rfl

theorem Rule.trimmed_of_trimsTo {rule : Rule} {text : List Char}
    (trims : Text.TrimsTo rule.pattern.toList text) : rule.trimmed.toList = text := by
  rw [trimmed, Text.trim, String.toList_ofList, Text.trimsTo_iff.mp trims]

/--
A rule with a literal text, which white space around it does not belong to, is never refused below
the limit of size.  Its test finds exactly the text itself if case counts, and otherwise the runs
that are as long and the same up to case.
-/
theorem literal_rule_accepts {rule : Rule} {text : List Char} (literal : rule.kind ≠ .regex)
    (trims : Text.TrimsTo rule.pattern.toList text) (nonblank : text ≠ [])
    (fits : rule.literalBytes ≤ maxBytes) :
    ∃ test, rule.compile = .ok (some test) ∧ ∀ line : String,
      (rule.caseSensitive = true →
        (test.accepts line = true ↔ rule.kind.HoldsOf text line.toList)) ∧
      (rule.caseSensitive = false →
        (test.accepts line = true ↔ rule.kind.HoldsOfRun (AlikeTexts text) line.toList)) := by
  have trimmed := Rule.trimmed_of_trimsTo trims
  have active : rule.isBlank = false := by
    rw [Rule.isBlank, ← Bool.not_eq_true, String.isEmpty_iff, ← String.toList_eq_nil_iff, trimmed]
    exact nonblank
  obtain ⟨pattern, compiled, matcher⟩ := Rule.compile_literal literal active fits
  rw [trimmed] at matcher
  refine ⟨_, compiled, fun line => ⟨fun cased => ?_, fun uncased => ?_⟩⟩
  · rw [cased] at matcher
    have exactly : Resembles false text = fun run => run = text :=
      funext fun run => propext resembles_exactly
    rw [Predicate.accepts_literal literal rule.join matcher, Bool.not_true, exactly,
      Kind.holdsOfRun_eq]
  · rw [uncased] at matcher
    rw [Predicate.accepts_literal literal rule.join matcher]
    rfl

/-- White space does not count, signs stand for themselves, and case is ignored beyond ASCII too. -/
theorem literal_rule_accepts_signs :
    ∃ test, Rule.compile (.ofKind .endsWith " \ufb05.b$ ") = .ok (some test) ∧
      test.accepts "x\ufb06.B$" = true ∧ test.accepts "x\ufb06xB$" ≠ true := by
  have literal : (Rule.ofKind .endsWith " \ufb05.b$ ").kind ≠ .regex := by decide
  have trims : Text.TrimsTo (Rule.ofKind .endsWith " \ufb05.b$ ").pattern.toList
      ['\ufb05', '.', 'b', '$'] := Text.trimsTo_iff.mpr (by decide +kernel)
  obtain ⟨test, compiled, accepts⟩ :=
    literal_rule_accepts literal trims (by decide) (by decide +kernel)
  refine ⟨test, compiled, ?_, ?_⟩
  · have alike : AlikeTexts ['\ufb05', '.', 'b', '$'] ['\ufb06', '.', 'B', '$'] := by
      decide +kernel
    exact ((accepts "x\ufb06.B$").2 rfl).mpr ⟨_, alike, by decide +kernel⟩
  · intro accepted
    obtain ⟨run, alike, finish⟩ := ((accepts "x\ufb06xB$").2 rfl).mp accepted
    have whole : run = ['\ufb06', 'x', 'B', '$'] := by
      rw [List.suffix_iff_eq_drop.mp finish, ← alike.length_eq]
      decide +kernel
    rw [whole] at alike
    exact absurd alike (by decide +kernel)

end LogView
