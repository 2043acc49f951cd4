import LogView.Proofs.Filter.LiteralRules
import LogView.Proofs.Pattern.Alternatives

/-!
# Refused rules and the highlight

The patterns of all rules that ask for something are put side by side, whether they are refused
alone or not.  A rule that is refused takes the highlight away with it, if its fault lies inside
its pattern.  A fault at its edge may be mended by what stands around it.
-/

namespace LogView

open Pattern Reader

/-- The text of the pattern of a rule. -/
def Rule.sourceChars (rule : Rule) : List Char := (rule.kind.patternSource rule.trimmed).toList

/-- A rule that ignores case or not, whatever it did before. -/
def Rule.withCase (rule : Rule) (ignoreCase : Bool) : Rule :=
  { rule with caseSensitive := !ignoreCase }

namespace Rule

variable (rule : Rule) (ignoreCase : Bool)

@[simp] theorem kind_withCase : (rule.withCase ignoreCase).kind = rule.kind := rfl

@[simp] theorem trimmed_withCase : (rule.withCase ignoreCase).trimmed = rule.trimmed := rfl

@[simp] theorem sourceChars_withCase :
    (rule.withCase ignoreCase).sourceChars = rule.sourceChars := rfl

@[simp] theorem isBlank_withCase : (rule.withCase ignoreCase).isBlank = rule.isBlank := rfl

@[simp] theorem caseSensitive_withCase :
    (rule.withCase ignoreCase).caseSensitive = !ignoreCase := rfl

end Rule

/-- Whether one of the rules that are highlighted ignores case, so that all of them do together. -/
def highlightIgnoresCase (rules : List Rule) : Bool :=
  (rules.filter Rule.isHighlighted).any fun rule => !rule.caseSensitive

theorem toList_highlightSource (rule : Rule) :
    rule.highlightSource.toList = '(' :: (rule.sourceChars ++ [')']) := by
  unfold Rule.highlightSource Rule.sourceChars
  simp

theorem toList_intercalate_highlight (before after : List Rule) (rule : Rule) :
    ∃ tail, (tail = [] ∨ ∃ rest, tail = '|' :: rest) ∧
      (String.intercalate "|" ((before ++ rule :: after).map Rule.highlightSource)).toList =
        barred (before.map Rule.sourceChars) ++ '(' :: (rule.sourceChars ++ ')' :: tail) := by
  simp only [String.toList_intercalate, List.map_map]
  induction before with
  | nil =>
    cases after with
    | nil => exact ⟨[], .inl rfl, by simp [barred, toList_highlightSource]⟩
    | cons other after =>
      refine ⟨'|' :: ['|'].intercalate
        ((other :: after).map (String.toList ∘ Rule.highlightSource)), .inr ⟨_, rfl⟩, ?_⟩
      rw [List.nil_append, List.map_cons, List.map_cons, List.intercalate_cons_cons]
      simp [barred, toList_highlightSource]
  | cons first before ih =>
    obtain ⟨tail, ends, split⟩ := ih
    refine ⟨tail, ends, ?_⟩
    rw [List.cons_append, List.map_cons, List.intercalate_cons_of_ne_nil (by simp), split]
    simp [barred, toList_highlightSource]

theorem ofSource_eq_error {source : String} {ignoreCase : Bool} {fault : Fault} :
    ofSource source ignoreCase = .error fault ↔ nodeOf source ignoreCase = .error fault := by
  unfold ofSource
  cases nodeOf source ignoreCase <;> simp [bind, Except.bind]

theorem Rule.sourceChars_regex {rule : Rule} (regex : rule.kind = .regex) :
    rule.sourceChars = rule.trimmed.toList := by
  unfold sourceChars
  rw [regex]
  rfl

theorem Rule.compile_eq_error {rule : Rule} (active : rule.isBlank = false) {fault : Fault} :
    rule.compile = .error ⟨rule.trimmed, fault⟩ ↔
      nodeOf (rule.kind.patternSource rule.trimmed) (!rule.caseSensitive) = .error fault := by
  unfold compile
  rw [active, if_neg (by decide), ← ofSource_eq_error]
  cases ofSource (rule.kind.patternSource rule.trimmed) (!rule.caseSensitive) <;> simp

/-- The pattern of a rule that is not refused is read as a whole, if it ends in no comment. -/
theorem Rule.readsAs {rule : Rule} (active : rule.isBlank = false)
    (sound : rule.kind = .regex →
      rule.refusal? = none ∧ takesParenthesis rule.trimmed.toList = false) :
    ∃ expr, ReadsAs rule.sourceChars expr := by
  by_cases regex : rule.kind = .regex
  · obtain ⟨accepted, closed⟩ := sound regex
    rw [sourceChars_regex regex]
    cases made : nodeOf (rule.kind.patternSource rule.trimmed) (!rule.caseSensitive) with
    | error fault =>
      rw [refusal?, (compile_eq_error active).mpr made] at accepted
      cases accepted
    | ok node =>
      rw [regex] at made
      obtain ⟨expr, -, reads, -⟩ := nodeOf_eq_ok.mp made
      exact ⟨expr, readsAs_of_read reads closed⟩
  · have written := Kind.toList_patternSource regex rule.trimmed
    unfold sourceChars
    rw [written]
    exact ⟨_, (reads_flatMap LiteralPart.reads _).readsAs (finish_addAll _)⟩

theorem Rule.isBlank_of_isHighlighted {rule : Rule} (marked : rule.isHighlighted = true) :
    rule.isBlank = false := by
  unfold isHighlighted at marked
  cases blank : rule.isBlank with
  | false => rfl
  | true =>
    rw [blank] at marked
    cases marked

theorem exists_readsAs {rules : List Rule}
    (read : ∀ rule ∈ rules, ∃ expr, ReadsAs rule.sourceChars expr) :
    ∃ parts : List (List Char × Expr),
      parts.map Prod.fst = rules.map Rule.sourceChars ∧ ∀ part ∈ parts, ReadsAs part.1 part.2 := by
  induction rules with
  | nil => exact ⟨[], rfl, by simp⟩
  | cons rule rules ih =>
    obtain ⟨expr, first⟩ := read rule List.mem_cons_self
    obtain ⟨parts, texts, rest⟩ := ih fun other mem => read other (List.mem_cons_of_mem _ mem)
    exact ⟨(rule.sourceChars, expr) :: parts, by simp [texts],
      List.forall_mem_cons.mpr ⟨first, rest⟩⟩

/-- A regular expression that is refused in some case is refused there for its own source. -/
theorem Rule.nodeOf_of_refused_withCase {rule : Rule} {ignoreCase : Bool} {cause : RefusedPattern}
    (regex : rule.kind = .regex) (active : rule.isBlank = false)
    (refused : (rule.withCase ignoreCase).compile = .error cause) :
    ∃ fault, nodeOf rule.trimmed ignoreCase = .error fault := by
  obtain ⟨source, fault⟩ := cause
  cases Rule.pattern_of_refused refused
  have alone := (Rule.compile_eq_error ((Rule.isBlank_withCase rule _).trans active)).mp refused
  rw [Rule.kind_withCase, regex, Rule.caseSensitive_withCase, Bool.not_not] at alone
  exact ⟨fault, alone⟩

theorem highlight_of_nodeOf {rules marked : List Rule}
    (kept : rules.filter Rule.isHighlighted = marked) (nonempty : marked ≠ []) {fault : Fault}
    (refused : nodeOf (String.intercalate "|" (marked.map Rule.highlightSource))
      (marked.any fun rule => !rule.caseSensitive) = .error fault) :
    highlight rules =
      .error ⟨String.intercalate "|" (marked.map Rule.highlightSource), fault⟩ := by
  unfold highlight
  rw [kept]
  split
  · contradiction
  · dsimp only
    rw [ofSource_eq_error.mpr refused]

theorem Run.highlight_ofRules {rules : List Rule} {cause : RefusedPattern}
    (refused : LogView.highlight rules = .error cause) (lines : List LogLine) :
    (Run.ofRules lines rules).highlight = none := by
  unfold ofRules
  dsimp only
  rw [refused]
  split_ifs <;> rfl

/--
A rule that is refused, not for a fault at the edge of its pattern, leaves nothing highlighted.
Its pattern may not begin with a question mark, which the parenthesis before it would take, the
rules before it may not be refused, and no comment may be open where a pattern ends.  A pattern
that is too large has to be so in the case of the highlight as well: sets of characters may
take fewer ranges when case is ignored.
-/
theorem highlight_of_refused {before after : List Rule} {rule : Rule} {refused : RefusedPattern}
    (regex : rule.kind = .regex) (compiled : rule.compile = .error refused)
    (inside : refused.fault.isAtEdge = false) (unmarked : rule.trimmed.toList.head? ≠ some '?')
    (sound : ∀ other ∈ before, other.kind = .regex → other.refusal? = none)
    (closed : ∀ other ∈ before ++ [rule], other.kind = .regex →
      takesParenthesis other.trimmed.toList = false)
    (sized : refused.fault = .tooLarge → ∃ cause,
      (rule.withCase (highlightIgnoresCase (before ++ rule :: after))).compile = .error cause) :
    (∃ cause, highlight (before ++ rule :: after) = .error cause) ∧
      ∀ lines, (Run.ofRules lines (before ++ rule :: after)).highlight = none := by
  obtain ⟨pattern, fault⟩ := refused
  cases Rule.pattern_of_refused compiled
  have active : rule.isBlank = false := Rule.isBlank_eq_false (by simp [compiled])
  have kept : (before ++ rule :: after).filter Rule.isHighlighted =
      before.filter Rule.isHighlighted ++ rule :: after.filter Rule.isHighlighted := by
    have marked : rule.isHighlighted = true := by
      simp [Rule.isHighlighted, active, regex, Kind.asks]
    rw [List.filter_append, List.filter_cons_of_pos marked]
  have read : ∀ other ∈ before.filter Rule.isHighlighted,
      ∃ expr, ReadsAs other.sourceChars expr := by
    intro other mem
    obtain ⟨mem, marked⟩ := List.mem_filter.mp mem
    exact Rule.readsAs (Rule.isBlank_of_isHighlighted marked) fun regex =>
      ⟨sound other mem regex, closed other (List.mem_append_left _ mem) regex⟩
  obtain ⟨parts, texts, whole⟩ := exists_readsAs read
  obtain ⟨tail, ends, split⟩ := toList_intercalate_highlight (before.filter Rule.isHighlighted)
    (after.filter Rule.isHighlighted) rule
  rw [← texts, Rule.sourceChars_regex regex] at split
  have alone := (Rule.compile_eq_error active).mp compiled
  rw [regex] at alone
  have sized' (large : fault = .tooLarge) : ∃ cause,
      nodeOf rule.trimmed (highlightIgnoresCase (before ++ rule :: after)) = .error cause := by
    obtain ⟨cause, together⟩ := sized large
    exact Rule.nodeOf_of_refused_withCase regex active together
  unfold highlightIgnoresCase at sized'
  rw [kept] at sized'
  obtain ⟨cause, together⟩ := nodeOf_alternatives whole alone inside unmarked
    (closed rule (by simp) regex) ends split sized'
  have failed := highlight_of_nodeOf kept (by simp) together
  exact ⟨⟨_, failed⟩, Run.highlight_ofRules failed⟩

/-- Bounds in the wrong order are refused behind patterns that are not, and before a broken one. -/
theorem highlight_of_bounds :
    (∃ cause, highlight ([.ofKind .regex "a+", .ofKind .contains "("] ++
        .ofKind .regex "b\x7b2,1\x7d" :: [.ofKind .regex "c)|(d"]) = .error cause) ∧
      ∀ lines, (Run.ofRules lines ([.ofKind .regex "a+", .ofKind .contains "("] ++
        .ofKind .regex "b\x7b2,1\x7d" :: [.ofKind .regex "c)|(d"])).highlight = none := by
  have refused : (Rule.ofKind .regex "b\x7b2,1\x7d").refusal? =
      some ⟨"b\x7b2,1\x7d", .countRangeInvalid⟩ := by decide +kernel
  have sound : ∀ other ∈ [Rule.ofKind .regex "a+", .ofKind .contains "("],
      other.kind = .regex → other.refusal? = none := by decide +kernel
  have closed : ∀ other ∈ [Rule.ofKind .regex "a+", .ofKind .contains "("] ++
      [.ofKind .regex "b\x7b2,1\x7d"], other.kind = .regex →
        takesParenthesis other.trimmed.toList = false := by decide +kernel
  exact highlight_of_refused rfl (Rule.compile_of_refusal? refused) rfl (by decide +kernel) sound
    closed nofun

/-- Ten ranges of letters become two when case is ignored, and the pattern is small enough. -/
example :
    Rule.refusal? ⟨none, .regex, "[aBcDeFgHiJ]\x7b100000\x7d", true⟩ =
        some ⟨"[aBcDeFgHiJ]\x7b100000\x7d", .tooLarge⟩ ∧
      (highlight [⟨none, .regex, "[aBcDeFgHiJ]\x7b100000\x7d", true⟩,
        .ofKind .contains "z"]).toOption.join.isSome = true := by
  decide +kernel

/--
Two faults at the edge of one pattern mend each other: each of its halves closes a group that the
parentheses around the pattern open.  The rule is refused, and its pattern is highlighted.
-/
theorem highlight_of_halves :
    (Run.ofRules [⟨1, "c"⟩] [.ofKind .regex "a)|(b", .ofKind .contains "c"]).refused =
        [⟨"a)|(b", .groupUnopened⟩] ∧
      (Run.ofRules [⟨1, "c"⟩] [.ofKind .regex "a)|(b", .ofKind .contains "c"]).highlight.map
        Pattern.source = some "(a)|(b)|(c)" := by
  decide +kernel

end LogView
