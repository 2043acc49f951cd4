import LogView.Proofs.Annotation.KeptTokens
import LogView.Proofs.Token.LevelPattern

/-!
# The severities of a line

Severities are looked for in what dates and times leave of a line, where the edges of the parts
look like edges of words.  Dates and times stand alone and have no letters, so they neither cut a
word for a severity nor take a character of one: the severities that are found are those of the
words of the whole line.
-/

namespace LogView

open Token

/-- The severity that a token stands for. -/
def Token.severity? : Token → Option Severity
  | .date => none
  | .time => none
  | .level severity => some severity

/-- The token of a word that names a severity. -/
def Token.levelAt? (text : List Char) (word : Nat × Nat) : Option PlacedToken :=
  (severityAt? text word).map fun severity => ⟨word.1, word.2, .level severity⟩

namespace Token

theorem Fits.isUpper_eq_false {shape word : List Char} (fits : Fits shape word)
    (small : shape.any Char.isUpper = false) : ∀ c ∈ word, c.isUpper = false := by
  induction fits with
  | nil => exact nofun
  | @cons s c shape word here _ ih =>
    obtain ⟨first, rest⟩ := Bool.or_eq_false_iff.mp small
    refine List.forall_mem_cons.mpr ⟨?_, ih rest⟩
    unfold FitsChar at here
    split_ifs at here with digits
    · have digit := Char.isDigit_iff_toNat.mp here
      have low : '9'.toNat < 'A'.toNat := by decide
      refine Bool.eq_false_iff.mpr fun capital => ?_
      have above : 'A'.toNat ≤ c.toNat := (of_decide_eq_true capital).1
      omega
    · rw [of_decide_eq_true here]
      exact first

theorem Spells.isUpper_eq_false {token : Token} {word : List Char} (spells : token.Spells word)
    (other : token.severity? = none) : ∀ c ∈ word, c.isUpper = false := by
  cases token with
  | date => exact Fits.isUpper_eq_false spells rfl
  | time =>
    obtain ⟨shape, mem, fits⟩ := spells
    have small : ∀ shape ∈ timeShapes, shape.any Char.isUpper = false := by
      simp only [timeShapes, List.mem_cons, List.not_mem_nil, or_false]
      rintro shape (rfl | rfl | rfl) <;> rfl
    exact Fits.isUpper_eq_false fits (small shape mem)
  | level severity => cases other

end Token

theorem PlacedToken.Overlaps.exists_char {text : List Char} {placed other : PlacedToken}
    (overlap : placed.Overlaps other) (written : placed.WrittenIn text)
    (written' : other.WrittenIn text) :
    ∃ c, c ∈ slice text placed.first placed.last ∧ c ∈ slice text other.first other.last := by
  obtain ⟨before, after⟩ := overlap
  obtain ⟨taken, inside, -⟩ := written
  obtain ⟨taken', inside', -⟩ := written'
  have within : max placed.first other.first < text.length := by omega
  exact ⟨text[max placed.first other.first], getElem_mem_slice within (by omega) (by omega),
    getElem_mem_slice within (by omega) (by omega)⟩

theorem PlacedToken.StandsIn.isWord {text : List Char} {placed : PlacedToken}
    (stands : placed.StandsIn text) {severity : Severity}
    (level : placed.token.severity? = some severity) :
    IsWord text (placed.first, placed.last) ∧
      levelAt? text (placed.first, placed.last) = some placed := by
  obtain ⟨first, last, token⟩ := placed
  obtain ⟨⟨taken, inside, spells⟩, alone⟩ := stands
  cases token with
  | date => cases level
  | time => cases level
  | level named =>
    have known : severityAt? text (first, last) = some named := severityAt?_eq_some.mpr spells
    refine ⟨isWord_of_severityAt? known inside alone, ?_⟩
    rw [levelAt?, known]
    rfl

theorem levelAt?_eq_some {text : List Char} {word : Nat × Nat} {placed : PlacedToken}
    (known : levelAt? text word = some placed) :
    ∃ severity, severityAt? text word = some severity ∧
      placed = ⟨word.1, word.2, .level severity⟩ := by
  obtain ⟨severity, named, rfl⟩ := Option.map_eq_some_iff.mp known
  exact ⟨severity, named, rfl⟩

theorem mem_levels_iff {line : String} {placed : PlacedToken} :
    placed ∈ (annotate line none).tokens ∧ placed.token.severity?.isSome = true ↔
      ∃ word, IsWord line.toList word ∧ levelAt? line.toList word = some placed := by
  rw [tokens_annotate_none]
  constructor
  · rintro ⟨mem, level⟩
    obtain ⟨severity, level⟩ := Option.isSome_iff_exists.mp level
    exact ⟨_, (stands_of_tokenize finds_tokenPasses false mem).isWord level⟩
  · rintro ⟨word, whole, known⟩
    obtain ⟨severity, named, rfl⟩ := levelAt?_eq_some known
    have reads := severityAt?_eq_some.mp named
    have stands : PlacedToken.StandsIn ⟨word.1, word.2, .level severity⟩ line.toList :=
      ⟨⟨whole.taken, whole.inside, reads⟩, whole.alone⟩
    obtain ⟨other, mem, overlap⟩ :=
      exists_overlapping finds_tokenPasses false stands (offers_tokenPasses _)
    have stands' := stands_of_tokenize finds_tokenPasses false mem
    refine ⟨?_, rfl⟩
    cases level : other.token.severity? with
    | none =>
      -- a date or a time would have a capital letter
      obtain ⟨c, mem', capital⟩ := overlap.exists_char stands'.1 stands.1
      have small := stands'.1.2.2.isUpper_eq_false level c mem'
      rw [reads] at capital
      rw [Severity.isUpper_of_mem_word capital] at small
      cases small
    | some severity' =>
      -- two words that overlap are the same
      obtain ⟨whole', known'⟩ := stands'.isWord level
      have same := whole'.eq_of_overlap whole overlap.1 overlap.2
      rw [same, known] at known'
      cases known'
      exact mem

/-- The severities among the tokens of a line are those of its words, in the same order. -/
theorem filter_tokens_annotate (line : String) :
    ((annotate line none).tokens.filter fun placed => placed.token.severity?.isSome) =
      (words line.toList).filterMap (levelAt? line.toList) := by
  have ordered : (annotate line none).tokens.Pairwise
      fun placed next => placed.first < next.first := by
    refine List.Pairwise.imp_of_mem ?_ (tokensFrom_ordered 0 _).2
    intro placed next mem _ behind
    have taken := (written_of_annotate mem).1
    omega
  have ordered' : ((words line.toList).filterMap (levelAt? line.toList)).Pairwise
      fun placed next => placed.first < next.first := by
    refine List.Pairwise.filterMap _ ?_ (words_ordered line.toList)
    intro word next before placed known placed' known'
    obtain ⟨_, -, rfl⟩ := levelAt?_eq_some known
    obtain ⟨_, -, rfl⟩ := levelAt?_eq_some known'
    exact before
  refine eq_of_ordered (ordered.filter _) ordered' fun placed => ?_
  rw [List.mem_filter, mem_levels_iff, List.mem_filterMap]
  simp only [mem_words]

theorem level_annotate (line : String) :
    (annotate line none).level =
      (annotate line none).tokens.findSome? fun placed => placed.token.severity? := by
  have named (word : Nat × Nat) :
      ((levelAt? line.toList word).bind fun placed => placed.token.severity?) =
        severityAt? line.toList word := by
    unfold levelAt?
    cases severityAt? line.toList word <;> rfl
  have skipped (placed : PlacedToken) :
      (if placed.token.severity?.isSome = true then placed.token.severity? else none) =
        placed.token.severity? := by
    cases placed.token.severity? <;> rfl
  calc (annotate line none).level
      = (words line.toList).findSome? (severityAt? line.toList) := firstLevel?_eq_findSome? line
    _ = (((words line.toList).filterMap (levelAt? line.toList)).filterMap
          fun placed => placed.token.severity?).head? := by
        rw [List.filterMap_filterMap, List.head?_filterMap]
        simp only [named]
    _ = (annotate line none).tokens.findSome? fun placed => placed.token.severity? := by
        rw [← filter_tokens_annotate, List.filterMap_filter, List.head?_filterMap]
        simp only [skipped]

/--
The severities that are found in a line are those of its words that name one.  The pattern of
severities finds the same as the scan in any text, the first of them in a line is that of its
first such word, and the severities among the tokens of a line are all of them, in order and in
their places, though they are looked for only in what dates and times leave.
-/
theorem levels_of_words :
    (∃ pattern, Pattern.ofSource Pattern.levelSource false = .ok pattern ∧
      ∀ text : String, pattern.spans text = spans levelLength? text.toList) ∧
    ∀ line : String,
      firstLevel? line = (words line.toList).findSome? (severityAt? line.toList) ∧
      ((annotate line none).tokens.filter fun placed => placed.token.severity?.isSome) =
        (words line.toList).filterMap (levelAt? line.toList) ∧
      (annotate line none).level =
        (annotate line none).tokens.findSome? fun placed => placed.token.severity? :=
  ⟨⟨_, Pattern.ofSource_levelSource, Pattern.spans_levelPattern⟩,
    fun line => ⟨firstLevel?_eq_findSome? line, filter_tokens_annotate line, level_annotate line⟩⟩

/-- A severity between a date and a time, and one that only a part of a word is. -/
example : (words "2024-03-01 WARNING:10:00:00 WARNED".toList).filterMap
      (levelAt? "2024-03-01 WARNING:10:00:00 WARNED".toList) = [⟨11, 18, .level .warning⟩] := by
  decide +kernel

end LogView
