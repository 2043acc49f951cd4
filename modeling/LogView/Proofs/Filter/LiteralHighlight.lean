import LogView.Proofs.Filter.Failure
import LogView.Proofs.Filter.Membership
import LogView.Proofs.Filter.RuleMatch
import LogView.Proofs.Pattern.LiteralAlternatives

/-!
# Highlighting literal texts

Rules with literal texts that ask for something are highlighted together, unless they are too long
for one pattern.  Something is found in a line exactly if one of these rules, in the case that they
have together, accepts it, and what is found is the text of such a rule at the edge it asks for.
So every line that such rules keep is highlighted somewhere.
-/

namespace LogView

open Pattern Reader

/-- The parts of the patterns of the rules that are highlighted. -/
def highlightedParts (rules : List Rule) : List (List LiteralPart) :=
  (rules.filter Rule.isHighlighted).map fun rule =>
    rule.kind.literalParts rule.trimmed.toList

/-- How many bytes the automaton of the highlight of literal texts takes. -/
def highlightBytes (rules : List Rule) : Nat :=
  (alternativeNode (highlightIgnoresCase rules) (highlightedParts rules)).bytes

theorem toList_highlightSource_literal {rule : Rule} (literal : rule.kind ≠ .regex) :
    rule.highlightSource.toList = groupSource (rule.kind.literalParts rule.trimmed.toList) := by
  rw [toList_highlightSource, Rule.sourceChars, Kind.toList_patternSource literal]
  rfl

theorem toList_intercalate_literal {marked : List Rule}
    (literal : ∀ rule ∈ marked, rule.kind ≠ .regex) :
    (String.intercalate "|" (marked.map Rule.highlightSource)).toList =
      alternativeSource (marked.map fun rule => rule.kind.literalParts rule.trimmed.toList) := by
  simp only [String.toList_intercalate, List.map_map]
  cases marked with
  | nil => rfl
  | cons first rest =>
    induction rest generalizing first with
    | nil =>
      have source := toList_highlightSource_literal (literal first List.mem_cons_self)
      simp [alternativeSource, source]
    | cons next rest ih =>
      obtain ⟨here, later⟩ := List.forall_mem_cons.mp literal
      rw [List.map_cons, List.intercalate_cons_of_ne_nil (by simp), ih next later]
      simp [alternativeSource, toList_highlightSource_literal here]

theorem highlightIgnoresCase_iff {rules : List Rule} : highlightIgnoresCase rules = true ↔
    ∃ rule ∈ rules, rule.isHighlighted = true ∧ rule.caseSensitive = false := by
  simp [highlightIgnoresCase]

theorem literalBytes_le_of_mem {rules : List Rule} {rule : Rule}
    (mem : rule ∈ rules.filter Rule.isHighlighted) :
    (rule.withCase (highlightIgnoresCase rules)).literalBytes ≤ highlightBytes rules := by
  have listed : rule.kind.literalParts rule.trimmed.toList ∈ highlightedParts rules :=
    List.mem_map_of_mem mem
  unfold Rule.literalBytes highlightBytes alternativeNode
  rw [Rule.caseSensitive_withCase, Bool.not_not]
  exact Node.bytes_le_of_mem (List.mem_map.mpr ⟨_, listed, rfl⟩)

theorem highlight_of_accepted {rules marked : List Rule}
    (kept : rules.filter Rule.isHighlighted = marked) (nonempty : marked ≠ []) {node : Node}
    (made : nodeOf (String.intercalate "|" (marked.map Rule.highlightSource))
      (marked.any fun rule => !rule.caseSensitive) = .ok node) :
    highlight rules = .ok (some ⟨String.intercalate "|" (marked.map Rule.highlightSource),
      marked.any fun rule => !rule.caseSensitive, node, node.matcher, rfl⟩) := by
  unfold highlight
  rw [kept]
  split
  · contradiction
  · dsimp only
    unfold ofSource
    rw [made]
    rfl

section Found

variable {rules : List Rule} (literal : ∀ rule ∈ rules, rule.kind ≠ .regex)
  (fits : highlightBytes rules ≤ maxBytes)
include literal fits

theorem matchAt?_withCase_eq_follow {rule : Rule} (mem : rule ∈ rules.filter Rule.isHighlighted)
    {ignoreCase : Bool} (cased : ignoreCase = highlightIgnoresCase rules) (line : String)
    (i : Nat) : (rule.withCase ignoreCase).matchAt? line i =
      follow ignoreCase line.toList.toArray i (rule.kind.literalParts rule.trimmed.toList) := by
  obtain ⟨listed, marked⟩ := List.mem_filter.mp mem
  have literal' : (rule.withCase ignoreCase).kind ≠ .regex := literal rule listed
  have active : (rule.withCase ignoreCase).isBlank = false := Rule.isBlank_of_isHighlighted marked
  have fits' : (rule.withCase ignoreCase).literalBytes ≤ maxBytes := by
    rw [cased]
    exact Nat.le_trans (literalBytes_le_of_mem mem) fits
  rw [Rule.matchAt?_literal literal' active fits', Rule.caseSensitive_withCase, Bool.not_not]
  rfl

/-- Literal texts that are not too long have a highlight, and it matches what one of them does. -/
theorem exists_literal_highlight (asks : ∃ rule ∈ rules, rule.isHighlighted = true) :
    ∃ pattern, highlight rules = .ok (some pattern) ∧
      pattern.ignoreCase = highlightIgnoresCase rules ∧
      ∀ (line : String) (i : Nat), pattern.matchAt? line i =
        (highlightedParts rules).findSome? (follow pattern.ignoreCase line.toList.toArray i) := by
  have asking : rules.filter Rule.isHighlighted ≠ [] := by
    obtain ⟨rule, mem, marked⟩ := asks
    exact List.ne_nil_of_mem (List.mem_filter.mpr ⟨mem, marked⟩)
  have literal' : ∀ rule ∈ rules.filter Rule.isHighlighted, rule.kind ≠ .regex := by
    intro rule mem
    exact literal rule (List.mem_filter.mp mem).1
  have parts : highlightedParts rules ≠ [] := mt List.map_eq_nil_iff.mp asking
  have made := nodeOf_alternativeSource parts fits (toList_intercalate_literal literal')
  refine ⟨_, highlight_of_accepted rfl asking made, rfl, fun line i => ?_⟩
  exact first?_literals _ parts line.toList.toArray i

variable {pattern : Pattern} (cased : pattern.ignoreCase = highlightIgnoresCase rules)
include cased

theorem exists_rule_of_found {line : String} {i j : Nat}
    (finds : pattern.matchAt? line i =
      (highlightedParts rules).findSome? (follow pattern.ignoreCase line.toList.toArray i))
    (found : pattern.matchAt? line i = some j) :
    ∃ rule ∈ rules, rule.isHighlighted = true ∧
      (rule.withCase pattern.ignoreCase).matchAt? line i = some j := by
  rw [finds] at found
  obtain ⟨parts, listed, taken⟩ := List.exists_of_findSome?_eq_some found
  obtain ⟨rule, mem, rfl⟩ := List.mem_map.mp listed
  obtain ⟨inside, marked⟩ := List.mem_filter.mp mem
  have finds' := matchAt?_withCase_eq_follow literal fits mem cased line i
  exact ⟨rule, inside, marked, finds'.trans taken⟩

theorem exists_found_of_rule {line : String} {i j : Nat}
    (finds : pattern.matchAt? line i =
      (highlightedParts rules).findSome? (follow pattern.ignoreCase line.toList.toArray i))
    {rule : Rule} (mem : rule ∈ rules) (marked : rule.isHighlighted = true)
    (found : (rule.withCase pattern.ignoreCase).matchAt? line i = some j) :
    ∃ k, pattern.matchAt? line i = some k := by
  have mem' : rule ∈ rules.filter Rule.isHighlighted := List.mem_filter.mpr ⟨mem, marked⟩
  rw [matchAt?_withCase_eq_follow literal fits mem' cased] at found
  rw [finds, ← Option.isSome_iff_exists, List.findSome?_isSome_iff]
  exact ⟨_, List.mem_map_of_mem mem', by rw [found]; rfl⟩

/-- Something is found in a line exactly if one of the rules, in the case of all, accepts it. -/
theorem spans_ne_nil_iff_passes {line : String}
    (finds : ∀ i, pattern.matchAt? line i =
      (highlightedParts rules).findSome? (follow pattern.ignoreCase line.toList.toArray i)) :
    pattern.spans line ≠ [] ↔ ∃ rule ∈ rules, rule.isHighlighted = true ∧
      (rule.withCase pattern.ignoreCase).passes line = true := by
  rw [spans_ne_nil_iff]
  constructor
  · rintro ⟨i, j, place, found, -⟩
    obtain ⟨rule, mem, marked, found⟩ := exists_rule_of_found literal fits cased (finds i) found
    exact ⟨rule, mem, marked, (Rule.passes_withCase_iff marked).mpr ⟨i, j, place, found⟩⟩
  · rintro ⟨rule, mem, marked, passes⟩
    obtain ⟨i, j, place, found⟩ := (Rule.passes_withCase_iff marked).mp passes
    obtain ⟨k, preferred⟩ := exists_found_of_rule literal fits cased (finds i) mem marked found
    obtain ⟨other, mem', -, found'⟩ := exists_rule_of_found literal fits cased (finds i) preferred
    have literal' : (other.withCase pattern.ignoreCase).kind ≠ .regex := literal other mem'
    exact ⟨i, k, place, preferred, Rule.lt_of_matchAt?_literal literal' found'⟩

end Found

/-- Whether the text of a rule lies at a span of a line, at the edge that the rule asks for. -/
def Rule.LiesAt (rule : Rule) (ignoreCase : Bool) (line : String) (span : Nat × Nat) : Prop :=
  Resembles ignoreCase rule.trimmed.toList ((line.toList.drop span.1).take (span.2 - span.1)) ∧
    (rule.kind = .startsWith → span.1 = 0) ∧ (rule.kind = .endsWith → span.2 = line.length)

theorem Rule.liesAt_of_matchAt? {rule : Rule} (literal : rule.kind ≠ .regex) {line : String}
    {ignoreCase : Bool} {i j : Nat}
    (found : (rule.withCase ignoreCase).matchAt? line i = some j) :
    rule.LiesAt ignoreCase line (i, j) := by
  have literal' : (rule.withCase ignoreCase).kind ≠ .regex := literal
  have active := isBlank_of_matchAt? found
  have fits := literalBytes_of_matchAt? literal' found
  obtain ⟨width, ⟨run, alike, here⟩, edges⟩ :=
    (matchAt?_literal_eq_some literal' active fits).mp found
  rw [caseSensitive_withCase, Bool.not_not] at alike
  have length : j - i = run.length := by
    rw [← alike.length_eq, String.length_toList]
    omega
  have run_eq : (line.toList.drop i).take (j - i) = run := by
    rw [length]
    exact (List.prefix_iff_eq_take.mp here).symm
  refine ⟨?_, edges⟩
  rw [run_eq]
  exact alike

theorem exists_passes_of_kept {lines : List LogLine} {rules : List Rule}
    (sound : (evaluate lines rules).failed = false) (asking : askingRules rules ≠ [])
    {line : LogLine} (kept : line ∈ (evaluate lines rules).kept) :
    ∃ rule ∈ askingRules rules, rule.passes line.text = true := by
  rw [evaluate_kept sound] at kept
  obtain ⟨granted, -⟩ := (Tests.accepts_ofRules rules line.text).mp (List.mem_filter.mp kept).2
  rcases granted with unasked | ⟨k, -, passes, -⟩
  · exact absurd unasked asking
  · exact ⟨_, List.getElem_mem k.isLt, passes⟩

/-- Rules with literal texts, not too long together, are evaluated as soon as one is highlighted. -/
theorem evaluated_of_literal {rules : List Rule} (literal : ∀ rule ∈ rules, rule.kind ≠ .regex)
    (fits : highlightBytes rules ≤ maxBytes) (asks : ∃ rule ∈ rules, rule.isHighlighted = true)
    (lines : List LogLine) :
    (evaluate lines rules).failed = false ∧ askingRules rules ≠ [] := by
  obtain ⟨rule, listed, marked⟩ := asks
  obtain ⟨active, asks⟩ := Rule.isHighlighted_iff.mp marked
  have together := literalBytes_le_of_mem (List.mem_filter.mpr ⟨listed, marked⟩)
  have alone := Rule.literalBytes_le_withCase fun uncased =>
    highlightIgnoresCase_iff.mpr ⟨rule, listed, marked, uncased⟩
  obtain ⟨test, compiled, -⟩ := Rule.compile_literal (literal rule listed) active
    (Nat.le_trans (Nat.le_trans alone together) fits)
  constructor
  · rw [Bool.eq_false_iff, Ne, evaluate_failed]
    rintro ⟨-, all⟩
    obtain ⟨refused, known⟩ := all rule listed active
    cases compiled.symm.trans known
  · refine List.ne_nil_of_mem (mem_askingRules.mpr ⟨listed, asks, ?_⟩)
    rw [Rule.test?_of_compile compiled]
    rfl

/--
Rules with literal texts, not too long together, are highlighted as they filter.  There is a
highlight, which ignores case if one of the rules that ask for something does.  It finds something
in exactly the lines that one of these rules accepts in that case, and each thing it finds is the
text of such a rule at the edge that the rule asks for.  Every line that a run keeps has something
to mark.
-/
theorem literal_highlight {rules : List Rule} (literal : ∀ rule ∈ rules, rule.kind ≠ .regex)
    (asks : ∃ rule ∈ rules, rule.isHighlighted = true) (fits : highlightBytes rules ≤ maxBytes) :
    ∃ pattern, highlight rules = .ok (some pattern) ∧
      (pattern.ignoreCase = true ↔
        ∃ rule ∈ rules, rule.isHighlighted = true ∧ rule.caseSensitive = false) ∧
      (∀ line, pattern.spans line ≠ [] ↔ ∃ rule ∈ rules, rule.isHighlighted = true ∧
        (rule.withCase pattern.ignoreCase).passes line = true) ∧
      (∀ line, ∀ span ∈ pattern.spans line, ∃ rule ∈ rules, rule.isHighlighted = true ∧
        rule.LiesAt pattern.ignoreCase line span) ∧
      ∀ lines, (Run.ofRules lines rules).highlight = some pattern ∧
        ∀ line ∈ (Run.ofRules lines rules).kept, pattern.spans line.text ≠ [] := by
  obtain ⟨pattern, made, cased, finds⟩ := exists_literal_highlight literal fits asks
  have accepted : ∀ line, pattern.spans line ≠ [] ↔ ∃ rule ∈ rules, rule.isHighlighted = true ∧
      (rule.withCase pattern.ignoreCase).passes line = true :=
    fun line => spans_ne_nil_iff_passes literal fits cased (finds line)
  refine ⟨pattern, made, by rw [cased, highlightIgnoresCase_iff], accepted, ?_, ?_⟩
  · intro line span mem
    obtain ⟨found, -, -⟩ := mem_spans mem
    obtain ⟨rule, mem, marked, found⟩ :=
      exists_rule_of_found literal fits cased (finds line _) found
    exact ⟨rule, mem, marked, Rule.liesAt_of_matchAt? (literal rule mem) found⟩
  · intro lines
    obtain ⟨sound, asking⟩ := evaluated_of_literal literal fits asks lines
    rw [Run.ofRules_of_highlight sound made]
    refine ⟨rfl, ?_⟩
    intro line kept
    obtain ⟨rule, mem, passes⟩ := exists_passes_of_kept sound asking kept
    obtain ⟨mem, asks, -⟩ := mem_askingRules.mp mem
    obtain ⟨i, j, place, found⟩ := (Rule.passes_iff_matchAt? asks).mp passes
    have marked := Rule.isHighlighted_iff.mpr ⟨Rule.isBlank_of_matchAt? found, asks⟩
    have coarser (uncased : rule.caseSensitive = false) : pattern.ignoreCase = true := by
      rw [cased, highlightIgnoresCase_iff]
      exact ⟨rule, mem, marked, uncased⟩
    have small := literalBytes_le_of_mem (List.mem_filter.mpr ⟨mem, marked⟩)
    rw [← cased] at small
    have found' := Rule.matchAt?_withCase_literal (literal rule mem) coarser
      (Nat.le_trans small fits) found
    exact (accepted line.text).mpr
      ⟨rule, mem, marked, (Rule.passes_withCase_iff marked).mpr ⟨i, j, place, found'⟩⟩

/-- Case is ignored for both texts as soon as one rule ignores it, and a dot stands for itself. -/
theorem literal_highlight_of_two :
    ∃ pattern, highlight [.ofKind .contains "a.b", ⟨none, .endsWith, "Z", true⟩] =
        .ok (some pattern) ∧
      pattern.ignoreCase = true ∧ pattern.spans "axb z" ≠ [] ∧ pattern.spans "axb zx" = [] := by
  have literal : ∀ rule ∈ [Rule.ofKind .contains "a.b", ⟨none, .endsWith, "Z", true⟩],
      rule.kind ≠ .regex := by decide
  have asks : ∃ rule ∈ [Rule.ofKind .contains "a.b", ⟨none, .endsWith, "Z", true⟩],
      rule.isHighlighted = true := by decide +kernel
  obtain ⟨pattern, made, cased, accepted, -, -⟩ :=
    literal_highlight literal asks (by decide +kernel)
  have uncased : pattern.ignoreCase = true := cased.mpr (by decide +kernel)
  rw [uncased] at accepted
  refine ⟨pattern, made, uncased, (accepted "axb z").mpr (by decide +kernel), ?_⟩
  cases found : pattern.spans "axb zx" with
  | nil => rfl
  | cons span spans =>
    have passes := (accepted "axb zx").mp (found ▸ List.cons_ne_nil span spans)
    exact absurd passes (by decide +kernel)

end LogView
