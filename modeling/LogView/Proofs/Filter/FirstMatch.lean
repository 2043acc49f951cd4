import LogView.Proofs.Annotation.Marks
import LogView.Proofs.Filter.RuleMatch

/-!
# The first rule that matches

What is highlighted at a place of a line is the match of the first rule that matches there, with
case ignored as soon as one rule ignores it.  If that match takes no character, nothing is
highlighted at the place, whatever later rules would find there.  Otherwise something is, whatever
rules come later.
-/

namespace LogView

open Pattern Reader

theorem highlight_eq_ok {rules marked : List Rule} {pattern : Pattern}
    (kept : rules.filter Rule.isHighlighted = marked)
    (made : highlight rules = .ok (some pattern)) :
    nodeOf (String.intercalate "|" (marked.map Rule.highlightSource)) pattern.ignoreCase =
        .ok pattern.node ∧
      pattern.ignoreCase = marked.any fun rule => !rule.caseSensitive := by
  unfold highlight at made
  rw [kept] at made
  split at made
  · cases made
  · dsimp only at made
    split at made
    · next composite source =>
      cases made
      unfold ofSource at source
      obtain ⟨node, known, source⟩ := ok_of_bind source
      cases source
      exact ⟨known, rfl⟩
    · cases made

/-- Whether a rule, taken alone with its case set, is accepted and matches what a node does. -/
def Rule.Makes (rule : Rule) (ignoreCase : Bool) (node : Node) : Prop :=
  rule.isBlank = false ∧ nodeOf (rule.kind.patternSource rule.trimmed) ignoreCase = .ok node

section Makes

variable {rule : Rule} {ignoreCase : Bool} {node : Node}

theorem Rule.makes_of_reads (marked : rule.isHighlighted = true) {expr : Expr}
    (read : ReadsAs rule.sourceChars expr) (makes : expr.Makes ignoreCase node) :
    rule.Makes ignoreCase node := by
  obtain ⟨shallow, ⟨flags, meaning⟩, small⟩ := makes
  exact ⟨isBlank_of_isHighlighted marked,
    nodeOf_eq_ok.mpr ⟨expr, flags, read.reads, shallow, meaning, small⟩⟩

theorem Rule.Makes.matchAt?_eq (makes : rule.Makes ignoreCase node) (line : String) (i : Nat) :
    (rule.withCase ignoreCase).matchAt? line i = node.matcher.first? line.toList.toArray i := by
  obtain ⟨active, made⟩ := makes
  refine matchAt?_of_nodeOf ((isBlank_withCase rule ignoreCase).trans active) ?_ line i
  rw [caseSensitive_withCase, Bool.not_not, kind_withCase, trimmed_withCase]
  exact made

theorem Rule.Makes.literalBytes_le (makes : rule.Makes ignoreCase node)
    (literal : rule.kind ≠ .regex) : (rule.withCase ignoreCase).literalBytes ≤ maxBytes := by
  have made := makes.2
  rw [nodeOf_literal ignoreCase (Kind.toList_patternSource literal rule.trimmed)] at made
  unfold literalBytes
  rw [caseSensitive_withCase, Bool.not_not]
  split_ifs at made with fits
  exact fits

end Makes

variable {before after : List Rule} {rule : Rule} {pattern : Pattern}

/-- The rules up to one are the first alternatives of the highlight, in its case. -/
theorem highlight_alternatives (made : highlight (before ++ rule :: after) = .ok (some pattern))
    (marked : rule.isHighlighted = true)
    (read : ∀ other ∈ before ++ [rule], other.isHighlighted = true →
      ∃ expr, ReadsAs other.sourceChars expr) :
    ∃ (nodes others : List Node), pattern.node = .ofAlternatives (nodes.map .capture ++ others) ∧
      (∃ node ∈ nodes, rule.Makes pattern.ignoreCase node) ∧
      ∀ node ∈ nodes, ∃ other ∈ before ++ [rule], other.Makes pattern.ignoreCase node := by
  have kept : (before ++ rule :: after).filter Rule.isHighlighted =
      before.filter Rule.isHighlighted ++ rule :: after.filter Rule.isHighlighted := by
    rw [List.filter_append, List.filter_cons_of_pos marked]
  have earlier : ∀ other ∈ before.filter Rule.isHighlighted,
      ∃ expr, ReadsAs other.sourceChars expr := by
    intro other mem
    obtain ⟨mem, shown⟩ := List.mem_filter.mp mem
    exact read other (List.mem_append_left _ mem) shown
  obtain ⟨parts, texts, whole⟩ := exists_readsAs earlier
  obtain ⟨body, whole'⟩ := read rule (by simp) marked
  obtain ⟨tail, ends, split⟩ := toList_intercalate_highlight (before.filter Rule.isHighlighted)
    (after.filter Rule.isHighlighted) rule
  rw [← texts] at split
  obtain ⟨nodes, others, alternatives, ⟨own, mem, makes⟩, all⟩ :=
    exists_nodes whole whole' ends split (highlight_eq_ok kept made).1
  refine ⟨nodes, others, alternatives, ⟨own, mem, Rule.makes_of_reads marked whole' makes⟩, ?_⟩
  intro node mem
  obtain ⟨expr, inside, makes⟩ := all node mem
  rcases List.mem_append.mp inside with inside | same
  · obtain ⟨part, listed, rfl⟩ := List.mem_map.mp inside
    have text : part.1 ∈ (before.filter Rule.isHighlighted).map Rule.sourceChars := by
      rw [← texts]
      exact List.mem_map_of_mem listed
    obtain ⟨other, mem', text⟩ := List.mem_map.mp text
    obtain ⟨mem', marked'⟩ := List.mem_filter.mp mem'
    have alone := whole part listed
    rw [← text] at alone
    exact ⟨other, List.mem_append_left _ mem', Rule.makes_of_reads marked' alone makes⟩
  · cases List.mem_singleton.mp same
    exact ⟨rule, by simp, Rule.makes_of_reads marked whole' makes⟩

theorem exists_highlight {rules : List Rule}
    (found : (highlight rules).toOption.join.isSome = true) :
    ∃ pattern, highlight rules = .ok (some pattern) := by
  cases known : highlight rules with
  | error cause =>
    rw [known] at found
    cases found
  | ok made =>
    cases made with
    | none =>
      rw [known] at found
      cases found
    | some pattern => exact ⟨pattern, rfl⟩

theorem ignoreCase_of_highlight (made : highlight (before ++ rule :: after) = .ok (some pattern))
    (marked : rule.isHighlighted = true) (uncased : rule.caseSensitive = false) :
    pattern.ignoreCase = true := by
  rw [(highlight_eq_ok rfl made).2, List.any_eq_true]
  exact ⟨rule, List.mem_filter.mpr ⟨by simp, marked⟩, by simp [uncased]⟩

/--
Where a rule matches, the highlight prefers the match of that rule or of one before it, each taken
alone with the case of the highlight.
-/
theorem highlight_prefers (made : highlight (before ++ rule :: after) = .ok (some pattern))
    (marked : rule.isHighlighted = true)
    (read : ∀ other ∈ before ++ [rule], other.isHighlighted = true →
      ∃ expr, ReadsAs other.sourceChars expr) {line : String} {i j : Nat}
    (found : (rule.withCase pattern.ignoreCase).matchAt? line i = some j) :
    ∃ k, pattern.matchAt? line i = some k ∧
      ∃ other ∈ before ++ [rule], (other.withCase pattern.ignoreCase).matchAt? line i = some k := by
  obtain ⟨nodes, others, alternatives, ⟨node, mem, makes⟩, all⟩ :=
    highlight_alternatives made marked read
  have matched :
      (nodes.findSome? fun node => node.matcher.first? line.toList.toArray i).isSome := by
    rw [makes.matchAt?_eq] at found
    rw [List.findSome?_isSome_iff]
    exact ⟨node, mem, by rw [found]; rfl⟩
  obtain ⟨k, preferred⟩ := Option.isSome_iff_exists.mp matched
  refine ⟨k, ?_, ?_⟩
  · have nonempty : nodes.map .capture ++ others ≠ [] :=
      List.append_ne_nil_of_left_ne_nil (List.ne_nil_of_mem (List.mem_map_of_mem mem)) _
    have captured : (nodes.map Node.capture).findSome?
        (fun node => node.matcher.first? line.toList.toArray i) = some k := by
      rw [List.findSome?_map]
      exact preferred
    unfold Pattern.matchAt?
    rw [pattern.matcher_eq, alternatives, first?_ofAlternatives nonempty, List.findSome?_append,
      captured]
    rfl
  · obtain ⟨node, mem, taken⟩ := List.exists_of_findSome?_eq_some preferred
    obtain ⟨other, inside, makes⟩ := all node mem
    exact ⟨other, inside, (makes.matchAt?_eq line i).trans taken⟩

/-- What a rule with a literal text matches alone, it matches in the case of a highlight too. -/
theorem matchAt?_in_highlight (made : highlight (before ++ rule :: after) = .ok (some pattern))
    (marked : rule.isHighlighted = true) (literal : rule.kind ≠ .regex)
    (read : ∀ other ∈ before ++ [rule], other.isHighlighted = true →
      ∃ expr, ReadsAs other.sourceChars expr) {line : String} {i j : Nat}
    (found : rule.matchAt? line i = some j) :
    (rule.withCase pattern.ignoreCase).matchAt? line i = some j := by
  obtain ⟨-, -, -, ⟨node, -, makes⟩, -⟩ := highlight_alternatives made marked read
  exact Rule.matchAt?_withCase_literal literal (ignoreCase_of_highlight made marked)
    (makes.literalBytes_le literal) found

/-- Rules before one that is read as a whole are so too, unless refused or left in a comment. -/
theorem readsAs_up_to (accepted : ∀ other ∈ before, other.kind = .regex → other.refusal? = none)
    (closed : ∀ other ∈ before, other.kind = .regex →
      takesParenthesis other.trimmed.toList = false)
    (own : ∃ expr, ReadsAs rule.sourceChars expr) :
    ∀ other ∈ before ++ [rule], other.isHighlighted = true →
      ∃ expr, ReadsAs other.sourceChars expr := by
  intro other mem marked
  rcases List.mem_append.mp mem with earlier | same
  · exact Rule.readsAs (Rule.isBlank_of_isHighlighted marked) fun regex =>
      ⟨accepted other earlier regex, closed other earlier regex⟩
  · cases List.mem_singleton.mp same
    exact own

/--
A line in which a rule finds something is highlighted, whatever rules come later.  The rule is
taken alone, a regular expression with the case of the highlight, and where it finds something no
regular expression before it prefers to take nothing.  The regular expressions up to it are
accepted, and none leaves a comment open that hides what stands behind it.
-/
theorem highlighted_of_found (made : highlight (before ++ rule :: after) = .ok (some pattern))
    (asks : rule.kind.asks = true)
    (accepted : ∀ other ∈ before, other.kind = .regex → other.refusal? = none)
    (closed : ∀ other ∈ before ++ [rule], other.kind = .regex →
      takesParenthesis other.trimmed.toList = false)
    {line : String} {i j : Nat} (place : i ≤ line.length)
    (found : (if rule.kind = .regex then rule.withCase pattern.ignoreCase else rule).matchAt?
      line i = some j) (taken : i < j)
    (clear : ∀ other ∈ before, other.kind = .regex →
      (other.withCase pattern.ignoreCase).matchAt? line i ≠ some i) :
    pattern.spans line ≠ [] ∧
      ∃ segment ∈ (annotate line (some pattern)).segments, segment.matched = true := by
  have read (own : ∃ expr, ReadsAs rule.sourceChars expr) :=
    readsAs_up_to accepted (fun other mem => closed other (List.mem_append_left _ mem)) own
  obtain ⟨marked, own, found'⟩ : rule.isHighlighted = true ∧
      (∃ expr, ReadsAs rule.sourceChars expr) ∧
        (rule.withCase pattern.ignoreCase).matchAt? line i = some j := by
    by_cases regex : rule.kind = .regex
    · rw [if_pos regex] at found
      have active := Rule.isBlank_of_matchAt? found
      have own := Rule.readsAs active fun _ =>
        ⟨Rule.refusal?_of_matchAt? found, closed rule (by simp) regex⟩
      rw [Rule.isBlank_withCase] at active
      rw [Rule.sourceChars_withCase] at own
      exact ⟨Rule.isHighlighted_iff.mpr ⟨active, asks⟩, own, found⟩
    · rw [if_neg regex] at found
      have active := Rule.isBlank_of_matchAt? found
      have marked := Rule.isHighlighted_iff.mpr ⟨active, asks⟩
      have own := Rule.readsAs active fun other => absurd other regex
      exact ⟨marked, own, matchAt?_in_highlight made marked regex (read own) found⟩
  obtain ⟨k, preferred, other, mem, alone⟩ := highlight_prefers made marked (read own) found'
  have takes : i < k := by
    rcases List.mem_append.mp mem with earlier | same
    · by_cases regex : other.kind = .regex
      · have onward := Rule.matchAt?_inside place alone
        have taking : k ≠ i := by
          rintro rfl
          exact clear other earlier regex alone
        omega
      · have literal : (other.withCase pattern.ignoreCase).kind ≠ .regex := regex
        exact Rule.lt_of_matchAt?_literal literal alone
    · cases List.mem_singleton.mp same
      cases alone.symm.trans found'
      exact taken
  have spans : pattern.spans line ≠ [] := spans_ne_nil_iff.mpr ⟨i, k, place, preferred, takes⟩
  exact ⟨spans, exists_matched spans⟩

/-- A repetition finds something behind one that does not match there, and before a third rule. -/
theorem highlighted_second : ∃ pattern,
    highlight ([.ofKind .regex "a+"] ++ ⟨none, .regex, "b*", true⟩ :: [.ofKind .startsWith "z"]) =
        .ok (some pattern) ∧
      pattern.spans "cB" ≠ [] ∧
      ∃ segment ∈ (annotate "cB" (some pattern)).segments, segment.matched = true := by
  obtain ⟨pattern, made⟩ : ∃ pattern, highlight ([.ofKind .regex "a+"] ++
      ⟨none, .regex, "b*", true⟩ :: [.ofKind .startsWith "z"]) = .ok (some pattern) :=
    exists_highlight (by decide +kernel)
  have uncased : pattern.ignoreCase = true :=
    (highlight_eq_ok rfl made).2.trans (by decide +kernel)
  have accepted : ∀ other ∈ [Rule.ofKind .regex "a+"], other.kind = .regex →
      other.refusal? = none := by decide +kernel
  have closed : ∀ other ∈ [Rule.ofKind .regex "a+"] ++ [⟨none, .regex, "b*", true⟩],
      other.kind = .regex → takesParenthesis other.trimmed.toList = false := by decide +kernel
  have found : Rule.matchAt? (Rule.withCase ⟨none, .regex, "b*", true⟩ true) "cB" 1 = some 2 := by
    decide +kernel
  have clear : ∀ other ∈ [Rule.ofKind .regex "a+"], other.kind = .regex →
      (other.withCase true).matchAt? "cB" 1 ≠ some 1 := by decide +kernel
  rw [← uncased] at found clear
  exact ⟨pattern, made, highlighted_of_found made rfl accepted closed (by decide) found (by decide)
    clear⟩

/-- What rules find in a line, and whether anything is marked there, if there is a highlight. -/
def foundIn? (rules : List Rule) (line : String) : Option (List (Nat × Nat) × Bool) :=
  (highlight rules).toOption.join.map fun pattern =>
    (pattern.spans line, (annotate line (some pattern)).segments.any Segment.matched)

/--
A line with something to highlight may not be highlighted.  A repetition before a rule takes
nothing where the rule would match.  A rule that counts case finds less where another ignores it.
A comment takes in the rules behind it, and a rule that is refused takes part all the same.
-/
theorem not_highlighted :
    (Rule.ofKind .contains "b").matchAt? "b" 0 = some 1 ∧
      Rule.matchAt? ⟨none, .regex, "[^a]", true⟩ "A" 0 = some 1 ∧
      foundIn? [.ofKind .regex "x*", .ofKind .contains "b"] "b" = some ([], false) ∧
      foundIn? [⟨none, .regex, "[^a]", true⟩, .ofKind .contains "z"] "A" = some ([], false) ∧
      foundIn? [.ofKind .regex "(?x)a#", .ofKind .contains "b", .ofKind .regex "u\nv"] "b" =
        some ([], false) ∧
      foundIn? [.ofKind .regex "a)|(x*", .ofKind .contains "b"] "b" = some ([], false) := by
  decide +kernel

end LogView
