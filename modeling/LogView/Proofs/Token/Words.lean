import LogView.Proofs.Annotation.Pieces
import LogView.Proofs.Token.Scan
import Mathlib.Data.List.Sort

/-!
# The words of a text

A word is a stretch of characters of words that goes on to neither side.  Two words with a character
in common are the same.  The scan for severities finds the words that name one, and finds all of
them, in order.
-/

namespace LogView
namespace Token

/-- Whether a stretch of a text, from a place to a place, is a word. -/
structure IsWord (text : List Char) (word : Nat × Nat) : Prop where
  taken : word.1 < word.2
  inside : word.2 ≤ text.length
  chars : ∀ c ∈ slice text word.1 word.2, isWordChar c = true
  alone : StandsAlone text word.1 word.2

/-- The words of a text, from left to right, each from a place to a place. -/
def words (text : List Char) : List (Nat × Nat) :=
  ((List.range text.length).filter fun i =>
      !wordBefore false text i && !endsWord (text.drop i)).map fun i =>
    (i, i + ((text.drop i).takeWhile isWordChar).length)

theorem eq_of_ordered {α : Type} {place : α → Nat} {list other : List α}
    (ordered : list.Pairwise fun a b => place a < place b)
    (ordered' : other.Pairwise fun a b => place a < place b)
    (same : ∀ a, a ∈ list ↔ a ∈ other) : list = other := by
  have irrefl : Std.Irrefl fun a b => place a < place b := ⟨fun a => Nat.lt_irrefl (place a)⟩
  have antisymm : Std.Antisymm fun a b => place a < place b :=
    ⟨fun a b before after => absurd before (Nat.lt_asymm after)⟩
  exact ordered.eq_of_mem_iff ordered' same

theorem words_ordered (text : List Char) :
    (words text).Pairwise fun word next => word.1 < next.1 := by
  unfold words
  rw [List.pairwise_map]
  exact List.pairwise_lt_range.filter _

section Word

variable {text : List Char}

theorem IsWord.charAt {word : Nat × Nat} (whole : IsWord text word) {k : Nat}
    (after : word.1 ≤ k) (before : k < word.2) :
    ∃ c, text[k]? = some c ∧ isWordChar c = true := by
  have within : k < text.length := Nat.lt_of_lt_of_le before whole.inside
  exact ⟨text[k], List.getElem?_eq_getElem within,
    whole.chars _ (getElem_mem_slice within after before)⟩

theorem IsWord.start_le {word other : Nat × Nat} (whole : IsWord text word)
    (whole' : IsWord text other) (overlap : other.1 < word.2) : other.1 ≤ word.1 := by
  by_contra later
  obtain ⟨k, next⟩ : ∃ k, other.1 = k + 1 := ⟨other.1 - 1, by omega⟩
  obtain ⟨c, found, inWord⟩ := whole.charAt (k := k) (by omega) (by omega)
  have outside := whole'.alone.1
  rw [next, wordBefore, found] at outside
  simp [inWord] at outside

theorem IsWord.stop_le {word other : Nat × Nat} (whole : IsWord text word)
    (whole' : IsWord text other) (overlap : word.1 < other.2) : word.2 ≤ other.2 := by
  by_contra longer
  obtain ⟨c, found, inWord⟩ := whole.charAt (k := other.2) (by omega) (by omega)
  have outside := whole'.alone.2
  have within : other.2 < text.length := Nat.lt_of_lt_of_le (by omega) whole.inside
  rw [List.drop_eq_getElem_cons within] at outside
  have inWord' : isWordChar text[other.2] = true := by
    rw [List.getElem?_eq_getElem within] at found
    cases found
    exact inWord
  simp [endsWord, inWord'] at outside

theorem IsWord.eq_of_overlap {word other : Nat × Nat} (whole : IsWord text word)
    (whole' : IsWord text other) (before : word.1 < other.2) (after : other.1 < word.2) :
    word = other := by
  have start := whole.start_le whole' after
  have start' := whole'.start_le whole before
  have stop := whole.stop_le whole' before
  have stop' := whole'.stop_le whole after
  exact Prod.ext (by omega) (by omega)

theorem IsWord.takeWhile_drop {word : Nat × Nat} (whole : IsWord text word) :
    (text.drop word.1).takeWhile isWordChar = slice text word.1 word.2 := by
  rw [drop_eq_slice_append (Nat.le_of_lt whole.taken), List.takeWhile_append_of_pos whole.chars,
    takeWhile_of_endsWord whole.alone.2, List.append_nil]

theorem mem_words {word : Nat × Nat} : word ∈ words text ↔ IsWord text word := by
  obtain ⟨first, last⟩ := word
  simp only [words, List.mem_map, List.mem_filter, List.mem_range, Bool.and_eq_true,
    Bool.not_eq_true', Prod.mk.injEq]
  constructor
  · rintro ⟨i, ⟨inside, fresh, begins⟩, rfl, rfl⟩
    obtain ⟨run, left⟩ := slice_takeWhile text i
    have taken : 0 < ((text.drop i).takeWhile isWordChar).length := by
      rw [List.drop_eq_getElem_cons inside] at begins ⊢
      have here : isWordChar text[i] = true := by simpa [endsWord] using begins
      rw [List.takeWhile_cons_of_pos here]
      exact Nat.succ_pos _
    have width : ((text.drop i).takeWhile isWordChar).length ≤ (text.drop i).length :=
      (List.takeWhile_prefix _).length_le
    rw [List.length_drop] at width
    refine ⟨by dsimp only; omega, by dsimp only; omega, ?_, fresh, ?_⟩
    · rw [run]
      intro c mem
      exact List.all_eq_true.mp List.all_takeWhile c mem
    · rw [left]
      exact endsWord_dropWhile _
  · intro whole
    have begins : endsWord (text.drop first) = false := by
      obtain ⟨c, found, inWord⟩ := whole.charAt (Nat.le_refl first) whole.taken
      have inside : first < text.length := Nat.lt_of_lt_of_le whole.taken whole.inside
      rw [List.getElem?_eq_getElem inside] at found
      cases found
      rw [List.drop_eq_getElem_cons inside]
      simp [endsWord, inWord]
    refine ⟨first, ⟨Nat.lt_of_lt_of_le whole.taken whole.inside, whole.alone.1, begins⟩, rfl, ?_⟩
    rw [whole.takeWhile_drop, length_slice whole.inside]
    have taken := whole.taken
    dsimp only at taken ⊢
    omega

theorem spans_ordered {i : Nat} {spans : List (Nat × Nat)} (spaced : Spaced i spans)
    (taken : ∀ span ∈ spans, span.1 < span.2) :
    (∀ span ∈ spans, i ≤ span.1) ∧ spans.Pairwise fun span next => span.1 < next.1 := by
  induction spans generalizing i with
  | nil => exact ⟨nofun, .nil⟩
  | cons span spans ih =>
    obtain ⟨first, last⟩ := span
    obtain ⟨start, -, rest⟩ := spaced
    obtain ⟨here, later⟩ := List.forall_mem_cons.mp taken
    obtain ⟨after, ordered⟩ := ih rest later
    dsimp only at here
    constructor
    · refine List.forall_mem_cons.mpr ⟨start, fun span mem => ?_⟩
      have bound := after span mem
      omega
    · refine List.pairwise_cons.mpr ⟨fun span mem => ?_, ordered⟩
      have bound := after span mem
      dsimp only
      omega

/-- The severity that a word of a text names. -/
def severityAt? (text : List Char) (word : Nat × Nat) : Option Severity :=
  Severity.ofWord? (String.ofList (slice text word.1 word.2))

theorem severityAt?_eq_some {word : Nat × Nat} {severity : Severity} :
    severityAt? text word = some severity ↔
      slice text word.1 word.2 = severity.word.toList :=
  Severity.ofWord?_ofList_eq_some

theorem lt_of_severityAt? {word : Nat × Nat} {severity : Severity}
    (named : severityAt? text word = some severity) (inside : word.2 ≤ text.length) :
    word.1 < word.2 := by
  have long := severity.length_word_pos
  rw [← severityAt?_eq_some.mp named, length_slice inside] at long
  omega

theorem edges_of_severityAt? {word : Nat × Nat} {severity : Severity}
    (named : severityAt? text word = some severity) (inside : word.2 ≤ text.length) :
    BeginsWord (text.drop word.1) ∧ wordBefore false text word.2 = true := by
  have reads := severityAt?_eq_some.mp named
  have spells : Token.Spells (.level severity) (slice text word.1 word.2) := reads
  exact ⟨beginsWord_drop spells.edges.1,
    wordBefore_of_ends (lt_of_severityAt? named inside) inside spells.edges.2⟩

theorem isWord_of_severityAt? {word : Nat × Nat} {severity : Severity}
    (named : severityAt? text word = some severity) (inside : word.2 ≤ text.length)
    (alone : StandsAlone text word.1 word.2) : IsWord text word := by
  refine ⟨lt_of_severityAt? named inside, inside, fun c mem => ?_, alone⟩
  rw [severityAt?_eq_some.mp named] at mem
  exact isWordChar_of_isUpper (Severity.isUpper_of_mem_word mem)

/-- What the scan for severities finds are the words that name one. -/
theorem mem_spans_levels {word : Nat × Nat} :
    word ∈ spans levelLength? text ↔ IsWord text word ∧ (severityAt? text word).isSome = true := by
  have sound {word : Nat × Nat} (mem : word ∈ spans levelLength? text) :
      IsWord text word ∧ (severityAt? text word).isSome = true := by
    obtain ⟨-, inside, alone, token, known, -⟩ := finds_levels.mem_spans mem
    obtain ⟨severity, named, -⟩ := Option.map_eq_some_iff.mp known
    exact ⟨isWord_of_severityAt? named inside alone, Option.isSome_of_eq_some named⟩
  constructor
  · exact sound
  · rintro ⟨whole, named⟩
    obtain ⟨severity, named⟩ := Option.isSome_iff_exists.mp named
    obtain ⟨span, mem, before, after⟩ := finds_levels.exists_span (offers_levels severity)
      (severityAt?_eq_some.mp named) whole.alone
    have taken := whole.taken
    rw [whole.eq_of_overlap (sound mem).1 after (by omega)]
    exact mem

theorem spans_levels (text : List Char) :
    spans levelLength? text = (words text).filter fun word => (severityAt? text word).isSome := by
  have taken : ∀ span ∈ spans levelLength? text, span.1 < span.2 :=
    fun span mem => (finds_levels.mem_spans mem).1
  refine eq_of_ordered (spans_ordered (spaced_spans _ text) taken).2
    ((words_ordered text).filter _) fun word => ?_
  rw [mem_spans_levels, List.mem_filter, mem_words]

/-- The first severity of a text is that of the first word that names one. -/
theorem firstLevel?_eq_findSome? (text : String) :
    firstLevel? text = (words text.toList).findSome? (severityAt? text.toList) := by
  have first (list : List (Nat × Nat)) :
      ((list.filter fun word => (severityAt? text.toList word).isSome).head?.bind
        (severityAt? text.toList)) = list.findSome? (severityAt? text.toList) := by
    induction list with
    | nil => rfl
    | cons word list ih =>
      cases named : severityAt? text.toList word with
      | none =>
        rw [List.filter_cons_of_neg (by simp [named]), ih, List.findSome?_cons, named]
      | some severity =>
        rw [List.filter_cons_of_pos (by simp [named]), List.findSome?_cons, named]
        exact named
  rw [← first, ← spans_levels]
  rfl

end Word

end Token
end LogView
