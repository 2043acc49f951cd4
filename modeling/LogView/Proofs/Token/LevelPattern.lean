import LogView.Proofs.Pattern.Alternatives
import LogView.Proofs.Pattern.LiteralMatch
import LogView.Proofs.Pattern.Search
import LogView.Proofs.Token.Words

/-!
# Severities as a pattern

The words for severities between two edges of words are a pattern.  One of the words is the
beginning of another, and stands before it in the pattern; behind the shorter one there is no edge
of a word where the longer one stands.  So at each place at most one match starts, whatever the
order of the words, and a search for the pattern finds what the scan for severities finds.
-/

namespace LogView
namespace Pattern

open Token

/-- The pattern of a severity between two edges of words. -/
def levelSource : String :=
  "(?-u:\\b)(?:INFO|WARN|WARNING|ERROR|DEBUG|TRACE|FATAL)(?-u:\\b)"

/-- The severities in the order of the pattern. -/
def levelOrder : List Severity := [.info, .warn, .warning, .error, .debug, .trace, .fatal]

theorem mem_levelOrder (severity : Severity) : severity ∈ levelOrder := by
  cases severity <;> decide

/-- The edge of a word, where words are made of ASCII characters. -/
def wordEdge : Node := .place (.word .boundary false)

/-- The word for a severity. -/
def wordNode (severity : Severity) : Node :=
  literalNode false (severity.word.toList.map .char)

/-- What the pattern of severities matches. -/
def levelNode : Node :=
  .seq (.seq wordEdge (.ofAlternatives (levelOrder.map wordNode))) wordEdge

def levelPattern : Pattern := ⟨levelSource, false, levelNode, levelNode.matcher, rfl⟩

theorem ofSource_levelSource : ofSource levelSource false = .ok levelPattern := by rfl

section Ends

variable {line : Line} {i j : Nat}

theorem mem_ends_seq {left right : Node} :
    j ∈ (Node.seq left right).partwise.ends line i ↔
      ∃ k ∈ left.partwise.ends line i, j ∈ right.partwise.ends line k := by
  simp [Node.partwise, Matcher.seq, mem_keepFirst_zero]

theorem mem_ends_place {condition : Condition} :
    j ∈ (Node.place condition).partwise.ends line i ↔
      j = i ∧ condition.holds line i = true := by
  unfold Node.partwise Matcher.place
  dsimp only
  split_ifs with holds <;> simp [holds]

theorem mem_ends_ofAlternatives {nodes : List Node} (nonempty : nodes ≠ []) :
    j ∈ (Node.ofAlternatives nodes).partwise.ends line i ↔
      ∃ node ∈ nodes, j ∈ node.partwise.ends line i := by
  have folded (rest : List Node) (first : Node) :
      j ∈ (rest.foldl .choice first).partwise.ends line i ↔
        j ∈ first.partwise.ends line i ∨ ∃ node ∈ rest, j ∈ node.partwise.ends line i := by
    induction rest generalizing first with
    | nil => simp
    | cons next rest ih =>
      have both : j ∈ (Node.choice first next).partwise.ends line i ↔
          j ∈ first.partwise.ends line i ∨ j ∈ next.partwise.ends line i := by
        simp [Node.partwise, Matcher.choice, mem_keepFirst_zero]
      rw [List.foldl_cons, ih, both, or_assoc, List.exists_mem_cons_iff]
  obtain ⟨first, rest, rfl⟩ := List.exists_cons_of_ne_nil nonempty
  rw [Node.ofAlternatives, folded, List.exists_mem_cons_iff]

end Ends

section Level

variable {text : List Char} {i j : Nat}

theorem charBefore_eq_wordBefore (text : List Char) (i : Nat) :
    (charBefore text.toArray i).any isWordChar = wordBefore false text i := by
  cases i with
  | zero => rfl
  | succ i => simp [charBefore, wordBefore]

theorem charAfter_eq_endsWord (text : List Char) (i : Nat) :
    (charAfter text.toArray i).any isWordChar = !endsWord (text.drop i) := by
  rw [charAfter_eq_head?]
  cases text.drop i <;> simp [endsWord]

/-- An edge of a word lies at a place if a word is at one side of it, but not at the other. -/
theorem mem_ends_wordEdge :
    j ∈ wordEdge.partwise.ends text.toArray i ↔
      j = i ∧ wordBefore false text i = endsWord (text.drop i) := by
  have ascii : isWord false = isWordChar := by
    funext c
    simp [isWord, isAsciiWord, isWordChar]
  refine mem_ends_place.trans (and_congr_right fun _ => ?_)
  rw [Condition.holds, ascii, charBefore_eq_wordBefore, charAfter_eq_endsWord]
  cases wordBefore false text i <;> cases endsWord (text.drop i) <;> decide

theorem mem_ends_wordNode {severity : Severity} :
    j ∈ (wordNode severity).partwise.ends text.toArray i ↔
      j ≤ text.length ∧ severityAt? text (i, j) = some severity := by
  have long := severity.length_word_pos
  rw [wordNode, ends_literalNode, Option.mem_toList, follow_chars, severityAt?_eq_some]
  simp only [resembles_exactly, exists_eq_left, List.prefix_iff_eq_take]
  unfold slice
  constructor
  · rintro ⟨rfl, reads⟩
    have width := congrArg List.length reads
    rw [List.length_take, List.length_drop] at width
    rw [Nat.add_sub_cancel_left]
    exact ⟨by omega, reads.symm⟩
  · rintro ⟨inside, reads⟩
    have width := congrArg List.length reads
    rw [List.length_take, List.length_drop] at width
    have stop : j = i + severity.word.toList.length := by omega
    rw [stop, Nat.add_sub_cancel_left] at reads
    exact ⟨stop, reads.symm⟩

theorem mem_ends_levelNode :
    j ∈ levelNode.partwise.ends text.toArray i ↔
      IsWord text (i, j) ∧ (severityAt? text (i, j)).isSome = true := by
  have nonempty : levelOrder.map wordNode ≠ [] := by simp [levelOrder]
  unfold levelNode
  constructor
  · intro mem
    obtain ⟨k, front, last⟩ := mem_ends_seq.mp mem
    obtain ⟨rfl, stop⟩ := mem_ends_wordEdge.mp last
    obtain ⟨k, first, middle⟩ := mem_ends_seq.mp front
    obtain ⟨rfl, start⟩ := mem_ends_wordEdge.mp first
    obtain ⟨node, listed, matched⟩ := (mem_ends_ofAlternatives nonempty).mp middle
    obtain ⟨severity, -, rfl⟩ := List.mem_map.mp listed
    obtain ⟨inside, named⟩ := mem_ends_wordNode.mp matched
    obtain ⟨begins, ends⟩ := edges_of_severityAt? named inside
    refine ⟨isWord_of_severityAt? named inside ⟨start.trans begins, stop.symm.trans ends⟩, ?_⟩
    exact Option.isSome_of_eq_some named
  · rintro ⟨whole, named⟩
    obtain ⟨severity, named⟩ := Option.isSome_iff_exists.mp named
    obtain ⟨begins, ends⟩ := edges_of_severityAt? named whole.inside
    have listed : wordNode severity ∈ levelOrder.map wordNode :=
      List.mem_map_of_mem (mem_levelOrder severity)
    have word := mem_ends_wordNode.mpr ⟨whole.inside, named⟩
    have middle := (mem_ends_ofAlternatives nonempty).mpr ⟨_, listed, word⟩
    have first : i ∈ wordEdge.partwise.ends text.toArray i :=
      mem_ends_wordEdge.mpr ⟨rfl, whole.alone.1.trans begins.symm⟩
    have last : j ∈ wordEdge.partwise.ends text.toArray j :=
      mem_ends_wordEdge.mpr ⟨rfl, ends.trans whole.alone.2.symm⟩
    exact mem_ends_seq.mpr ⟨j, mem_ends_seq.mpr ⟨i, first, middle⟩, last⟩

end Level

/-- At a place where a word begins that names a severity, the pattern matches the whole word. -/
theorem matchAt?_levelPattern {text : String} {i j : Nat} :
    levelPattern.matchAt? text i = some j ↔
      IsWord text.toList (i, j) ∧ (severityAt? text.toList (i, j)).isSome = true := by
  have once : levelNode.repeats = false := rfl
  rw [matchAt?, Matcher.first?_eq, levelPattern.matcher_eq]
  change (levelNode.matcher.ends _ _).head? = _ ↔ _
  rw [matcher_eq_partwise once]
  constructor
  · intro found
    exact mem_ends_levelNode.mp (List.mem_of_head? found)
  · rintro ⟨whole, named⟩
    have mem := mem_ends_levelNode.mpr ⟨whole, named⟩
    obtain ⟨stop, found⟩ := Option.ne_none_iff_exists'.mp
      (mt List.head?_eq_none_iff.mp (List.ne_nil_of_mem mem))
    -- another match at the place is a word that begins there, so it is the same one
    obtain ⟨other, -⟩ := mem_ends_levelNode.mp (List.mem_of_head? found)
    have same := whole.eq_of_overlap other other.taken whole.taken
    cases same
    exact found

theorem spans_levelPattern (text : String) :
    levelPattern.spans text = Token.spans levelLength? text.toList := by
  have sound {span : Nat × Nat} (mem : span ∈ levelPattern.spans text) :
      IsWord text.toList span ∧ (severityAt? text.toList span).isSome = true :=
    matchAt?_levelPattern.mp (mem_spans mem).1
  rw [spans_levels]
  refine eq_of_ordered (spans_ordered (spaced_spans _ text) fun span mem => (mem_spans mem).2.1).2
    ((words_ordered _).filter _) fun word => ?_
  rw [List.mem_filter, mem_words]
  constructor
  · exact sound
  · rintro ⟨whole, named⟩
    have found := matchAt?_levelPattern.mpr ⟨whole, named⟩
    have place : word.1 ≤ text.length := by
      rw [← String.length_toList]
      exact Nat.le_trans (Nat.le_of_lt whole.taken) whole.inside
    obtain ⟨span, mem, before, after⟩ := exists_span place found whole.taken
    have taken := whole.taken
    rw [whole.eq_of_overlap (sound mem).1 after (by omega)]
    exact mem

end Pattern
end LogView
